import ApiScribe.Operation.Draft
import ApiScribe.Proofs.Package.Answer
import Mathlib.Data.List.Forall2

/-!
# Models that refer to each other

What an id in a property refers to is a matter of reading, as a type is either a name or an id; all of
this holds for any reading, `refers`.

* `Model.Closed` — the ids that some models refer to are all theirs;
* `Operation.Names` — the ids that an operation names: in its answers, as its items, and as types of
  its parameters.  Of these types the text remains; `Draft.parameterRefs` says what they have been
  looked up as;
* `closed_ofComment` — if lookups answer with closed models, then the models that a comment collects
  are closed and have all ids that its operation names.
-/

namespace ApiScribe

/-! ### Closed models -/

namespace Model

variable (refers : Property → String → Prop)

def RefersTo (m : Model) (id : String) : Prop :=
  ∃ name p, m.properties.get? name = some p ∧ refers p id

/-- All ids that the models refer to are ids of theirs. -/
def Closed (ms : List Model) : Prop :=
  ∀ m ∈ ms, ∀ id, m.RefersTo refers id → id ∈ ms.map (·.id)

variable {refers} {ms ns : List Model}

theorem closed_nil : Closed refers [] := fun _ hm => absurd hm List.not_mem_nil

theorem Closed.append (h : Closed refers ms) (h' : Closed refers ns) :
    Closed refers (ms ++ ns) := by
  intro m hm id hid
  rw [List.map_append, List.mem_append]
  rcases List.mem_append.mp hm with hm | hm
  · exact Or.inl (h m hm id hid)
  · exact Or.inr (h' m hm id hid)

theorem dedupFrom_eq (seen : List String) (ms : List Model) :
    dedupFrom seen ms = (firsts (·.id) ms).filter fun m => m.id ∉ seen := by
  induction ms generalizing seen with
  | nil => rfl
  | cons m ms ih =>
    rw [dedupFrom, firsts]
    split
    · rename_i hseen
      rw [List.filter_cons_of_neg (by simpa using hseen), ih, List.filter_filter]
      refine List.filter_congr fun n _ => ?_
      by_cases hid : n.id = m.id
      · simp [hid, hseen]
      · simp [hid]
    · rename_i hnew
      rw [List.filter_cons_of_pos (by simpa using hnew), ih, List.filter_filter]
      refine congrArg (m :: ·) (List.filter_congr fun n _ => ?_)
      simp [not_or, Bool.and_comm]

theorem dedup_eq (ms : List Model) : dedup ms = firsts (·.id) ms := by
  rw [dedup, dedupFrom_eq]
  simp

theorem mem_ids_dedup {id : String} (h : id ∈ ms.map (·.id)) : id ∈ (dedup ms).map (·.id) := by
  obtain ⟨m, hm, rfl⟩ := List.mem_map.mp h
  obtain ⟨first, hfirst, hid⟩ := exists_mem_firsts (·.id) hm
  rw [dedup_eq]
  exact List.mem_map.mpr ⟨first, hfirst, hid⟩

/-- **Closed models stay closed when only the first of each id is kept**, whatever the others refer
to. -/
theorem Closed.dedup (h : Closed refers ms) : Closed refers (dedup ms) := by
  intro m hm id hid
  rw [dedup_eq] at hm
  exact mem_ids_dedup (h m (mem_of_mem_firsts hm) id hid)

end Model

/-- Whatever is remembered, a lookup that answers with a model answers with closed models. -/
def Lookup.Closed {σ : Type} (refers : Property → String → Prop) (types : Lookup σ) : Prop :=
  ∀ name package s model inner, (types name package s).1 = .ok (.model model inner) →
    Model.Closed refers (model :: inner)

/-- The ids that an operation names, if the types of its parameters have been looked up as `refs`. -/
def Operation.Names (op : Operation) (refs : List Draft.TypeRef) (id : String) : Prop :=
  (∃ r ∈ op.responseMessages, r.responseModel = id ∧ id ≠ "") ∨ op.items = some (.model id) ∨
    .model id ∈ refs

namespace Draft

/-! ### What parameters have been looked up as -/

section

variable {σ : Type} (types : Lookup σ)

/-- What the type of a parameter is looked up as, if the directive adds one. -/
def parameterRef? (d : Draft) (s : σ) : Directive → Option TypeRef
  | .parameter _ _ type _ _ => ((registerType types d type s).1.toOption).map Prod.fst
  | _ => none

/-- What the type of a parameter is looked up as, if the line adds one. -/
def lineRef? (d : Draft) (s : σ) (line : String) : Option TypeRef :=
  match Directive.read? line with
  | .ok (some directive) => parameterRef? types d s directive
  | _ => none

/-- What the types of the parameters are looked up as that the lines of a comment add, in order. -/
def parameterRefs (d : Draft) (s : σ) : List String → List TypeRef
  | [] => []
  | line :: lines =>
    if Directive.isDirective line then
      match applyLine types d line s with
      | ((.ok (), d'), s') => (lineRef? types d s line).toList ++ parameterRefs d' s' lines
      | ((.error e, d'), s') => if e.isMalformed then parameterRefs d' s' lines else []
    else parameterRefs d s lines

def ofComment (package : String) (lines : List String) (s : σ) : Draft :=
  (applyComment types (start package) lines s).1.2

end

/-! ### Closed drafts -/

/-- The models of a draft are closed and have all ids that its operation names; its parameters have
been looked up as `refs`. -/
structure Closed (refers : Property → String → Prop) (d : Draft) (refs : List TypeRef) : Prop where
  models : Model.Closed refers d.models
  named : ∀ {id}, d.operation.Names refs id → id ∈ d.models.map (·.id)
  parameters : List.Forall₂ (fun p ref => p.dataType = ref.name) d.operation.parameters refs

variable {refers : Property → String → Prop} {σ : Type} {types : Lookup σ} {d d' : Draft}
  {refs : List TypeRef}

theorem closed_start (refers : Property → String → Prop) (package : String) :
    Closed refers (start package) [] where
  models := Model.closed_nil
  named := by
    rintro id (⟨r, hr, -⟩ | hitems | href)
    · exact absurd hr List.not_mem_nil
    · cases hitems
    · exact absurd href List.not_mem_nil
  parameters := .nil

/-- More models that are closed, and an operation that names nothing new but ids of theirs. -/
theorem Closed.extend {new : List Model} {refs' : List TypeRef} {op : Operation}
    (h : Closed refers d refs) (hnew : Model.Closed refers new)
    (hnames : ∀ {id}, op.Names refs' id → d.operation.Names refs id ∨ id ∈ new.map (·.id))
    (hparameters : List.Forall₂ (fun p ref => p.dataType = ref.name) op.parameters refs') :
    Closed refers { d with models := d.models ++ new, operation := op } refs' where
  models := h.models.append hnew
  named := by
    intro id hid
    show id ∈ (d.models ++ new).map (·.id)
    rw [List.map_append, List.mem_append]
    exact (hnames hid).imp_left h.named
  parameters := hparameters

theorem Closed.dedup (h : Closed refers d refs) :
    Closed refers { d with models := Model.dedup d.models } refs where
  models := h.models.dedup
  named := fun hid => Model.mem_ids_dedup (h.named hid)
  parameters := h.parameters

theorem registerType_ok (h : types.Closed refers) {type : String} {s s' : σ} {ref : TypeRef}
    (hrun : registerType types d type s = (.ok (ref, d'), s')) :
    ∃ new, d' = { d with models := d.models ++ new } ∧ Model.Closed refers new ∧
      ∀ id, ref = .model id → id ∈ new.map (·.id) := by
  unfold registerType at hrun
  split at hrun
  · cases hrun
    exact ⟨[], by simp, Model.closed_nil, fun id hid => nomatch hid⟩
  · have hclosed := h type d.package s
    rcases hlookup : types type d.package s with ⟨e | (name | ⟨model, inner⟩), s₁⟩
    · rw [exceptT_bind_error hlookup] at hrun
      cases hrun
    · rw [exceptT_bind_ok hlookup] at hrun
      cases hrun
      exact ⟨[], by simp, Model.closed_nil, fun id hid => nomatch hid⟩
    · rw [exceptT_bind_ok hlookup] at hrun
      cases hrun
      rw [hlookup] at hclosed
      refine ⟨model :: inner, rfl, hclosed model inner rfl, fun id hid => ?_⟩
      cases hid
      exact List.mem_cons_self

/-! ### Directives -/

theorem responseMessages_withResult (op : Operation) (marker : String) (ref : TypeRef) :
    (withResult op marker ref).responseMessages = op.responseMessages ∧
      (withResult op marker ref).parameters = op.parameters := by
  unfold withResult
  split <;> exact ⟨rfl, rfl⟩

/-- With an answer, an operation names the type of the answer besides what it has named before. -/
theorem names_withResult {op : Operation} {marker message id : String} {ref : TypeRef} {code : Int32}
    (h : Operation.Names { withResult op marker ref with
      responseMessages := (withResult op marker ref).responseMessages ++
        [{ code, message, responseModel := ref.modelId }] } refs id) :
    op.Names refs id ∨ ref = .model id := by
  rcases h with ⟨r, hr, hid, hne⟩ | hitems | href
  · rw [(responseMessages_withResult op marker ref).1] at hr
    rcases List.mem_append.mp hr with hr | hr
    · exact Or.inl (Or.inl ⟨r, hr, hid, hne⟩)
    · rw [List.mem_singleton.mp hr] at hid
      cases ref with
      | primitive name => exact absurd hid.symm hne
      | model id' => exact Or.inr (congrArg TypeRef.model hid)
  · change (withResult op marker ref).items = some (.model id) at hitems
    unfold withResult at hitems
    split at hitems
    · cases ref with
      | primitive name => cases hitems
      | model id' =>
        cases hitems
        exact Or.inr rfl
    · cases hitems
  · exact Or.inl (Or.inr (Or.inr href))

theorem Closed.addResponse (h : types.Closed refers) (hd : Closed refers d refs) {code : Int32}
    {marker type message : String} {s s' : σ}
    (hrun : addResponse types d code marker type message s = (.ok d', s')) :
    Closed refers d' refs := by
  unfold Draft.addResponse at hrun
  by_cases hcode : code ≠ 200
  · rw [if_pos hcode] at hrun
    cases hrun
    refine ⟨hd.models, fun {id} hid => hd.named ?_, hd.parameters⟩
    rcases hid with ⟨r, hr, hid, hne⟩ | hrest
    · rcases List.mem_append.mp hr with hr | hr
      · exact Or.inl ⟨r, hr, hid, hne⟩
      · rw [List.mem_singleton.mp hr] at hid
        exact absurd hid.symm hne
    · exact Or.inr hrest
  · rw [if_neg hcode] at hrun
    by_cases hmodel : marker = "\x7bobject\x7d" ∨ marker = "\x7barray\x7d"
    · rw [if_pos hmodel] at hrun
      rcases hreg : registerType types d type s with ⟨e | ⟨ref, d₁⟩, s₁⟩
      · rw [exceptT_bind_error hreg] at hrun
        cases hrun
      · rw [exceptT_bind_ok hreg] at hrun
        obtain ⟨new, rfl, hnew, href⟩ := registerType_ok h hreg
        cases hrun
        refine hd.extend hnew (fun {id} hid => (names_withResult hid).imp_right (href id)) ?_
        exact (responseMessages_withResult d.operation marker ref).2 ▸ hd.parameters
    · rw [if_neg hmodel] at hrun
      cases hrun
      refine ⟨hd.models, fun {id} hid => hd.named ?_, ?_⟩
      · exact (names_withResult hid).resolve_right fun href => nomatch href
      · exact (responseMessages_withResult d.operation marker (.primitive type)).2 ▸ hd.parameters

/-- **A directive keeps a draft closed.** -/
theorem Closed.applyRaw (h : types.Closed refers) (hd : Closed refers d refs) {directive : Directive}
    {s s' : σ} (hrun : applyRaw types d directive s = (.ok d', s')) :
    Closed refers d' (refs ++ (parameterRef? types d s directive).toList) := by
  have hsame : Closed refers d (refs ++ []) := by rwa [List.append_nil]
  cases directive with
  | parameter name location type required description =>
    rw [Draft.applyRaw] at hrun
    rcases hreg : registerType types d type s with ⟨e | ⟨ref, d₁⟩, s₁⟩
    · rw [exceptT_bind_error hreg] at hrun
      cases hrun
    · rw [exceptT_bind_ok hreg] at hrun
      obtain ⟨new, rfl, hnew, href⟩ := registerType_ok h hreg
      have hadded : parameterRef? types d s (.parameter name location type required description) =
          some ref := by
        rw [parameterRef?, hreg]
        rfl
      cases hrun
      rw [hadded]
      refine hd.extend hnew (fun {id} hid => ?_) (List.rel_append hd.parameters (.cons rfl .nil))
      rcases hid with hresponse | hitems | hid
      · exact Or.inl (Or.inl hresponse)
      · exact Or.inl (Or.inr (Or.inl hitems))
      · rcases List.mem_append.mp hid with hid | hid
        · exact Or.inl (Or.inr (Or.inr hid))
        · exact Or.inr (href id (List.mem_singleton.mp hid).symm)
  | response code marker type message => exact Closed.addResponse h hsame hrun
  | route path method => cases hrun; exact ⟨hsame.models, hsame.named, hsame.parameters⟩
  | title text => cases hrun; exact ⟨hsame.models, hsame.named, hsame.parameters⟩
  | description text => cases hrun; exact ⟨hsame.models, hsame.named, hsame.parameters⟩
  | notes text => cases hrun; exact ⟨hsame.models, hsame.named, hsame.parameters⟩
  | resource name => cases hrun; exact ⟨hsame.models, hsame.named, hsame.parameters⟩
  | contentTypes consumed produced names =>
    cases hrun
    exact ⟨hsame.models, hsame.named, hsame.parameters⟩
  | other tag => cases hrun; exact hsame

/-! ### Comments -/

theorem applyLine_apply (types : Lookup σ) (d : Draft) (line : String) (s : σ) :
    applyLine types d line s = match Directive.read? line with
      | .error e => ((.error e, d), s)
      | .ok none => ((.ok (), d), s)
      | .ok (some directive) => match applyRaw types d directive s with
        | (.ok d', s') => ((.ok (), { d' with models := Model.dedup d'.models }), s')
        | (.error e, s') => ((.error e, d), s') := by
  unfold applyLine
  cases Directive.read? line with
  | error e => rfl
  | ok directive =>
    cases directive with
    | none => rfl
    | some directive =>
      dsimp only
      rw [stateM_bind]
      rcases hraw : applyRaw types d directive s with ⟨e | d', s'⟩
      · have happly : (apply types d directive).run s = (.error e, s') := exceptT_bind_error hraw
        rw [happly]
        rfl
      · have happly : (apply types d directive).run s =
            (.ok { d' with models := Model.dedup d'.models }, s') := exceptT_bind_ok hraw
        rw [happly]
        rfl

theorem applyLine_error {line : String} {s s' : σ} {e : Error}
    (hrun : applyLine types d line s = ((.error e, d'), s')) : d' = d := by
  rw [applyLine_apply] at hrun
  split at hrun
  · cases hrun
    rfl
  · cases hrun
  · split at hrun
    · cases hrun
    · cases hrun
      rfl

theorem Closed.applyLine (h : types.Closed refers) (hd : Closed refers d refs) {line : String}
    {s s' : σ} (hrun : applyLine types d line s = ((.ok (), d'), s')) :
    Closed refers d' (refs ++ (lineRef? types d s line).toList) := by
  rw [applyLine_apply] at hrun
  unfold lineRef?
  split at hrun
  · cases hrun
  · cases hrun
    rename_i hread
    rw [hread, Option.toList_none, List.append_nil]
    exact hd
  · rename_i directive hread
    rw [hread]
    split at hrun
    · rename_i hraw
      cases hrun
      exact (Closed.applyRaw h hd hraw).dedup
    · cases hrun

theorem Closed.applyLines (h : types.Closed refers) (lines : List String) (found : Bool) (s : σ)
    (hd : Closed refers d refs) :
    Closed refers (applyLines types found d lines s).1.2
      (refs ++ parameterRefs types d s lines) := by
  induction lines generalizing found d refs s with
  | nil =>
    rw [parameterRefs, List.append_nil]
    exact hd
  | cons line lines ih =>
    rw [Draft.applyLines, parameterRefs]
    split
    · rw [stateM_bind]
      rcases hline : Draft.applyLine types d line s with ⟨⟨e | _, d'⟩, s'⟩
      · obtain rfl := applyLine_error hline
        dsimp only
        split
        · exact ih true s' hd
        · rw [List.append_nil]
          exact hd
      · dsimp only
        rw [← List.append_assoc]
        exact ih true s' (Closed.applyLine h hd hline)
    · exact ih found s hd

/-- **A comment leaves a draft that is closed**, well read or not. -/
theorem closed_ofComment (h : types.Closed refers) (package : String) (lines : List String) (s : σ) :
    Closed refers (ofComment types package lines s)
      (parameterRefs types (start package) s lines) :=
  Closed.applyLines h lines false s (closed_start refers package)

end Draft

end ApiScribe
