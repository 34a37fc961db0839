import ApiScribe.Operation.Draft
import ApiScribe.Proofs.Package.Answer

/-!
# What ends the reading of a comment

A directive changes the draft, but whether it fails depends on its line and on the package only: the
types that it names are looked up from there (`gives_applyLine`).  So the first line that fails on
its own is the one that ends the comment (`gives_applyComment`), whatever the lines in front of it
have made of the draft.
-/

namespace ApiScribe

/-- From a package, the lookup of a type has one answer; if it fails, then with an error in `E`. -/
def Lookup.Answered (I : Memory → Prop) (E : Error → Prop) (types : Lookup Memory)
    (package : String) : Prop :=
  ∀ type, ∃ r, Gives I (types type package) r ∧ ∀ e, r = .error e → E e

namespace Draft

variable {I : Memory → Prop} {E : Error → Prop} {types : Lookup Memory} {package : String}

/-! ### Directives -/

section

variable {α β γ : Type}

/-- On all drafts of a package, `x` has the answer `r`, with an error in `E` if it fails.  What it
gives is a pair of the answer and of a draft of the package. -/
def Uniformly (I : Memory → Prop) (E : Error → Prop) (package : String) (pair : α → Draft → β)
    (x : Draft → Session β) (r : Except Error α) : Prop :=
  (∀ e, r = .error e → E e) ∧
    ∀ d, d.package = package → ∃ d', d'.package = package ∧ Gives I (x d) (r.map (pair · d'))

theorem Uniformly.ok {pair : α → Draft → β} {x : Draft → Session β} {a : α}
    {change : Draft → Draft} (hx : ∀ d, x d = pure (pair a (change d)))
    (hchange : ∀ d, (change d).package = d.package) : Uniformly I E package pair x (.ok a) := by
  refine ⟨fun e he => (nomatch he), fun d hd => ⟨change d, (hchange d).trans hd, ?_⟩⟩
  rw [hx]
  exact gives_pure _

/-- Uniformly, with nothing but a draft. -/
abbrev UniformlyDone (I : Memory → Prop) (E : Error → Prop) (package : String)
    (x : Draft → Session Draft) : Except Error Unit → Prop :=
  Uniformly I E package (fun _ d => d) x

/-- What is done with an answer afterwards cannot fail. -/
theorem Uniformly.bind {x : Draft → Session (α × Draft)} {r : Except Error α}
    (h : Uniformly I E package Prod.mk x r) (change : α → Draft → Draft)
    (hchange : ∀ a d, (change a d).package = d.package) :
    UniformlyDone I E package (fun d => x d >>= fun found => pure (change found.1 found.2))
      (r.map fun _ => ()) := by
  obtain ⟨herror, hgives⟩ := h
  cases r with
  | error e =>
    refine ⟨fun e' he => herror e' (by cases he; rfl), fun d hd => ?_⟩
    obtain ⟨d', hd', hx⟩ := hgives d hd
    exact ⟨d', hd', hx.error_bind⟩
  | ok a =>
    refine ⟨fun e he => (nomatch he), fun d hd => ?_⟩
    obtain ⟨d', hd', hx⟩ := hgives d hd
    exact ⟨change a d', (hchange a d').trans hd', hx.ok_bind (gives_pure _)⟩

end

/-- What a type has been looked up as, with a draft that has collected its models. -/
def collect (d : Draft) : Resolved → TypeRef × Draft
  | .primitive name => (.primitive name, d)
  | .model model inner => (.model model.id, { d with models := d.models ++ model :: inner })

theorem registerType_uniformly (h : types.Answered I E package) (type : String) :
    ∃ r, Uniformly I E package Prod.mk (fun d => registerType types d type) r := by
  by_cases hbasic : type = "error" ∨ TypeName.isBasic type
  · exact ⟨_, .ok (fun d => if_pos hbasic) fun _ => rfl⟩
  · obtain ⟨answer, hgives, herror⟩ := h type
    have hrun : ∀ d, d.package = package → Gives I (registerType types d type)
        (answer >>= fun found => .ok (collect d found)) := by
      intro d hd
      subst hd
      unfold registerType
      rw [if_neg hbasic]
      refine hgives.bind fun found => ?_
      cases found <;> exact gives_pure _
    cases answer with
    | error e => exact ⟨.error e, fun e' he => herror e' (by cases he; rfl), fun d hd =>
        ⟨d, hd, hrun d hd⟩⟩
    | ok found =>
      cases found with
      | primitive name => exact ⟨.ok (.primitive name), fun e he => (nomatch he), fun d hd =>
          ⟨d, hd, hrun d hd⟩⟩
      | model model inner => exact ⟨.ok (.model model.id), fun e he => (nomatch he), fun d hd =>
          ⟨{ d with models := d.models ++ model :: inner }, hd, hrun d hd⟩⟩

theorem addResponse_uniformly (h : types.Answered I E package) (code : Int32)
    (marker type message : String) :
    ∃ r, UniformlyDone I E package (fun d => addResponse types d code marker type message) r := by
  by_cases hcode : code = 200
  · subst hcode
    let added (ref : TypeRef) (d : Draft) : Draft :=
      { d with operation := { withResult d.operation marker ref with
        responseMessages := (withResult d.operation marker ref).responseMessages ++
          [{ code := 200, message, responseModel := ref.modelId }] } }
    by_cases hmodel : marker = "\x7bobject\x7d" ∨ marker = "\x7barray\x7d"
    · obtain ⟨r, hr⟩ := registerType_uniformly h type
      have hadd : ∀ d, addResponse types d 200 marker type message =
          registerType types d type >>= fun found => pure (added found.1 found.2) := by
        intro d
        unfold addResponse
        simp only [ne_eq, not_true_eq_false, if_false, if_pos hmodel]
        rfl
      simp only [hadd]
      exact ⟨_, hr.bind added fun _ _ => rfl⟩
    · refine ⟨.ok (), .ok (fun d => ?_) fun d => rfl (a := (added (.primitive type) d).package)⟩
      unfold addResponse
      simp only [ne_eq, not_true_eq_false, if_false, if_neg hmodel]
      rfl
  · exact ⟨.ok (), .ok (fun d => if_pos hcode) fun _ => rfl⟩

theorem applyRaw_uniformly (h : types.Answered I E package) (directive : Directive) :
    ∃ r, UniformlyDone I E package (fun d => applyRaw types d directive) r := by
  cases directive with
  | parameter name location type required description =>
    obtain ⟨r, hr⟩ := registerType_uniformly h type
    let added (ref : TypeRef) (d : Draft) : Draft :=
      { d with operation.parameters := d.operation.parameters ++
        [{ location, name, description, dataType := ref.name, type := ref.name, required }] }
    exact ⟨_, hr.bind added fun _ _ => rfl⟩
  | response code marker type message => exact addResponse_uniformly h code marker type message
  | route path method => exact ⟨.ok (), .ok (fun _ => rfl) fun _ => rfl⟩
  | title text => exact ⟨.ok (), .ok (fun _ => rfl) fun _ => rfl⟩
  | description text => exact ⟨.ok (), .ok (fun _ => rfl) fun _ => rfl⟩
  | notes text => exact ⟨.ok (), .ok (fun _ => rfl) fun _ => rfl⟩
  | resource name => exact ⟨.ok (), .ok (fun _ => rfl) fun _ => rfl⟩
  | contentTypes consumed produced names => exact ⟨.ok (), .ok (fun _ => rfl) fun _ => rfl⟩
  | other tag => exact ⟨.ok (), .ok (fun _ => rfl) fun _ => rfl⟩

theorem apply_uniformly (h : types.Answered I E package) (directive : Directive) :
    ∃ r, UniformlyDone I E package (fun d => apply types d directive) r := by
  obtain ⟨r, herror, hgives⟩ := applyRaw_uniformly h directive
  refine ⟨r, herror, fun d hd => ?_⟩
  obtain ⟨d', hd', hx⟩ := hgives d hd
  refine ⟨{ d' with models := Model.dedup d'.models }, hd', ?_⟩
  cases r with
  | error e => exact hx.error_bind
  | ok _ => exact hx.ok_bind (gives_pure _)

/-! ### Lines -/

theorem isMalformed_of_read? {line : String} {e : Error} (h : Directive.read? line = .error e) :
    e.isMalformed := by
  unfold Directive.read? at h
  dsimp only at h
  split at h
  · cases h
  · split at h
    · cases h
    · cases h
      rfl

/-- What a line comes to by itself. -/
def lineResult (types : Lookup Memory) (package line : String) : Except Error Unit :=
  (applyLine types (start package) line {}).1.1

/-- The error with which a line ends any comment in a package, if it does: malformed directives are
passed over. -/
def fault? (types : Lookup Memory) (package line : String) : Option Error :=
  match lineResult types package line with
  | .error e => if e.isMalformed then none else some (.inDirective (Text.trimmed line) e)
  | .ok () => none

theorem applyLine_uniform (h : types.Answered I E package) (line : String) :
    ∃ r, (∀ e, r = .error e → e.isMalformed ∨ E e) ∧ ∀ d, d.package = package →
      ∃ d', d'.package = package ∧ Gives I (applyLine types d line) (r, d') := by
  unfold applyLine
  cases hread : Directive.read? line with
  | error e =>
    refine ⟨.error e, fun e' he => ?_, fun d hd => ⟨d, hd, fun m hm => ⟨rfl, hm⟩⟩⟩
    cases he
    exact Or.inl (isMalformed_of_read? hread)
  | ok directive =>
    cases directive with
    | none => exact ⟨.ok (), fun e he => (nomatch he), fun d hd => ⟨d, hd, fun m hm => ⟨rfl, hm⟩⟩⟩
    | some directive =>
      obtain ⟨r, herror, hgives⟩ := apply_uniformly h directive
      cases r with
      | error e =>
        refine ⟨.error e, fun e' he => Or.inr (herror e' he), fun d hd => ⟨d, hd, ?_⟩⟩
        obtain ⟨d', -, hx⟩ := hgives d hd
        exact hx.stateM_bind fun m hm => ⟨rfl, hm⟩
      | ok _ =>
        refine ⟨.ok (), fun e he => (nomatch he), fun d hd => ?_⟩
        obtain ⟨d', hd', hx⟩ := hgives d hd
        exact ⟨d', hd', hx.stateM_bind fun m hm => ⟨rfl, hm⟩⟩

/-- **On all drafts of a package, a line comes to what it comes to by itself.** -/
theorem gives_applyLine (h : types.Answered I E package) (hI : I {}) (line : String) {d : Draft}
    (hd : d.package = package) : ∃ d', d'.package = package ∧
      Gives I (applyLine types d line) (lineResult types package line, d') := by
  obtain ⟨r, -, hgives⟩ := applyLine_uniform h line
  obtain ⟨_, _, hstart⟩ := hgives (start package) rfl
  have hr : lineResult types package line = r := congrArg Prod.fst (hstart {} hI).1
  rw [hr]
  exact hgives d hd

theorem fault?_error (h : types.Answered I E package) (hI : I {}) {line : String} {e : Error}
    (he : fault? types package line = some e) :
    ∃ cause, e = .inDirective (Text.trimmed line) cause ∧ E cause := by
  obtain ⟨r, herror, hgives⟩ := applyLine_uniform h line
  obtain ⟨_, _, hstart⟩ := hgives (start package) rfl
  have hr : lineResult types package line = r := congrArg Prod.fst (hstart {} hI).1
  unfold fault? at he
  rw [hr] at he
  split at he
  · rename_i cause
    obtain ⟨hnot, he⟩ := Option.ite_none_left_eq_some.mp he
    cases he
    exact ⟨cause, rfl, (herror cause rfl).resolve_left hnot⟩
  · cases he

/-! ### Comments -/

/-- What the lines of a comment come to: the first of them that fails by itself ends the comment. -/
def outcome (types : Lookup Memory) (package : String) (found : Bool) (lines : List String) :
    Except Error Unit :=
  match lines.findSome? (fault? types package) with
  | some e => .error e
  | none => if found || lines.any Directive.isDirective then .ok () else .error .noDirectives

theorem fault?_of_ok {line : String} (h : lineResult types package line = .ok ()) :
    fault? types package line = none := by
  unfold fault?
  rw [h]

theorem fault?_of_error {line : String} {e : Error}
    (h : lineResult types package line = .error e) : fault? types package line =
      if e.isMalformed then none else some (.inDirective (Text.trimmed line) e) := by
  unfold fault?
  rw [h]

theorem fault?_of_not_isDirective {line : String} (h : Directive.isDirective line = false) :
    fault? types package line = none := by
  have hsplit : Directive.split? (Text.trim line.toList) = none := by
    simpa [Directive.isDirective] using h
  have hread : Directive.read? line = .ok none := by simp only [Directive.read?, hsplit]
  have hresult : lineResult types package line = .ok () := by
    unfold lineResult applyLine
    rw [hread]
    rfl
  exact fault?_of_ok hresult

theorem outcome_cons_fault {line : String} {e : Error} (he : fault? types package line = some e)
    (found : Bool) (lines : List String) :
    outcome types package found (line :: lines) = .error e := by
  unfold outcome
  rw [List.findSome?_cons, he]

theorem outcome_cons {line : String} (h : fault? types package line = none) (found : Bool)
    (lines : List String) : outcome types package found (line :: lines) =
      outcome types package (found || Directive.isDirective line) lines := by
  unfold outcome
  rw [List.findSome?_cons, h, List.any_cons, Bool.or_assoc]

theorem gives_applyLines (h : types.Answered I E package) (hI : I {}) (lines : List String)
    (found : Bool) {d : Draft} (hd : d.package = package) :
    ∃ d', Gives I (applyLines types found d lines) (outcome types package found lines, d') := by
  induction lines generalizing found d with
  | nil =>
    refine ⟨d, fun m hm => ⟨?_, hm⟩⟩
    cases found <;> rfl
  | cons line lines ih =>
    unfold applyLines
    cases hdir : Directive.isDirective line with
    | false =>
      rw [outcome_cons (fault?_of_not_isDirective hdir), hdir, Bool.or_false]
      exact ih found hd
    | true =>
      obtain ⟨d', hd', hline⟩ := gives_applyLine h hI line hd
      obtain ⟨d'', hrest⟩ := ih true hd'
      cases hresult : lineResult types package line with
      | ok _ =>
        rw [outcome_cons (fault?_of_ok hresult), hdir, Bool.or_true]
        rw [hresult] at hline
        exact ⟨d'', hline.stateM_bind hrest⟩
      | error e =>
        have hfault := fault?_of_error hresult
        rw [hresult] at hline
        split at hfault
        · rename_i hmal
          rw [outcome_cons hfault, hdir, Bool.or_true]
          refine ⟨d'', hline.stateM_bind ?_⟩
          dsimp only
          rwa [if_pos hmal]
        · rename_i hmal
          rw [outcome_cons_fault hfault]
          refine ⟨d', hline.stateM_bind ?_⟩
          dsimp only
          rw [if_neg hmal]
          exact fun m hm => ⟨rfl, hm⟩

/-- **A comment comes to what its lines come to by themselves**, whatever has been asked before. -/
theorem gives_applyComment (h : types.Answered I E package) (hI : I {}) (lines : List String) :
    ∃ d, Gives I (applyComment types (start package) lines)
      (outcome types package false lines, d) :=
  gives_applyLines h hI lines false rfl

/-- A comment fails because it holds no directive, or with its first line that fails by itself. -/
theorem outcome_error {lines : List String} {e : Error}
    (he : outcome types package false lines = .error e) : e = .noDirectives ∨
      ∃ before line after, lines = before ++ line :: after ∧
        (∀ earlier ∈ before, fault? types package earlier = none) ∧
        fault? types package line = some e := by
  unfold outcome at he
  cases hfirst : lines.findSome? (fault? types package) with
  | none =>
    rw [hfirst] at he
    dsimp only at he
    split at he
    · cases he
    · cases he
      exact Or.inl rfl
  | some e' =>
    rw [hfirst] at he
    cases he
    obtain ⟨before, line, after, hlines, hline, hbefore⟩ :=
      List.findSome?_eq_some_iff.mp hfirst
    exact Or.inr ⟨before, line, after, hlines, hbefore, hline⟩

end Draft

end ApiScribe
