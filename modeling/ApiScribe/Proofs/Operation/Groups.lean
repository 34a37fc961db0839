import ApiScribe.Proofs.Operation.Account
import ApiScribe.Proofs.Operation.InPlace
import ApiScribe.Proofs.Operation.Padding

/-!
# The fields of a directive

The tag of a line says which fields of a draft the line may write (`Line.fields`).  A line is
*confined* to them (`Draft.Confined`): it leaves the others as they are, and what it writes depends
on these fields only.  So two lines without a field in common can change places
(`Confined.comm`), and a lookup does not get in their way, as only one of them can have a type
looked up.  Parameters and answers share the models, and nothing else is shared
(`Group.apart_iff`).

That every directive makes the models unique does not count, as they are unique already.
-/

namespace ApiScribe

namespace Draft

/-! ### Drafts with one model of each id -/

theorem distinct_iff {d : Draft} : d.Distinct ↔ (d.models.map (·.id)).Nodup := by
  constructor
  · intro hd
    have hmodels : Model.dedup d.models = d.models := congrArg Draft.models hd
    rw [← hmodels, Model.dedup_eq]
    exact nodup_firsts d.models
  · intro hids
    unfold Distinct distinct
    rw [Model.dedup_eq, firsts_of_nodup hids]

theorem distinct_applyEach {σ : Type} {types : Lookup σ} {d : Draft} (hd : d.Distinct)
    (lines : List String) (s : σ) : (applyEach types d lines s).1.Distinct := by
  induction lines generalizing d s with
  | nil => exact hd
  | cons line lines ih =>
    rcases hrun : applyLine types d line s with ⟨⟨result, d'⟩, s'⟩
    rw [applyEach_cons hrun]
    exact ih (hd.applyLine hrun) s'

/-! ### Fields and groups of them -/

inductive Field where
  | path | httpMethod | nickname | summary | notes | resource | consumes | produces | parameters
  | type | items | responseMessages | models | package
  deriving DecidableEq, Repr

def Field.Value : Field → Type
  | path | httpMethod | nickname | summary | notes | type | package => String
  | resource => Option String
  | consumes | produces => List String
  | parameters => List Parameter
  | items => Option Items
  | responseMessages => List ResponseMessage
  | models => List Model

def Field.get : (field : Field) → Draft → field.Value
  | path, d => d.operation.path
  | httpMethod, d => d.operation.httpMethod
  | nickname, d => d.operation.nickname
  | summary, d => d.operation.summary
  | notes, d => d.operation.notes
  | resource, d => d.resource
  | consumes, d => d.operation.consumes
  | produces, d => d.operation.produces
  | parameters, d => d.operation.parameters
  | type, d => d.operation.type
  | items, d => d.operation.items
  | responseMessages, d => d.operation.responseMessages
  | models, d => d.models
  | package, d => d.package

theorem ext_get {d d' : Draft} (h : ∀ field : Field, field.get d = field.get d') : d = d' := by
  obtain ⟨op, models, resource, package⟩ := d
  obtain ⟨op', models', resource', package'⟩ := d'
  obtain rfl : models = models' := h .models
  obtain rfl : resource = resource' := h .resource
  obtain rfl : package = package' := h .package
  have hop : op = op' := by
    cases op
    cases op'
    exact Operation.mk.injEq .. ▸ ⟨h .httpMethod, h .nickname, h .type, h .items, h .summary, h .notes,
      h .parameters, h .responseMessages, h .consumes, h .produces, h .path⟩
  rw [hop]

/-- The fields that belong together. -/
inductive Group where
  | route | title | description | notes | resource | contentTypes | parameter | response
  deriving DecidableEq, Repr

def Group.fields : Group → List Field
  | route => [.path, .httpMethod]
  | title => [.nickname]
  | description => [.summary]
  | notes => [.notes]
  | resource => [.resource]
  | contentTypes => [.consumes, .produces]
  | parameter => [.parameters, .models]
  | response => [.type, .items, .responseMessages, .models]

/-- Different groups, and not those of parameters and of answers. -/
def Group.Apart (g g' : Group) : Prop :=
  g ≠ g' ∧ ¬ (g = parameter ∧ g' = response) ∧ ¬ (g = response ∧ g' = parameter)

instance (g g' : Group) : Decidable (g.Apart g') := by unfold Group.Apart; infer_instance

theorem Group.apart_iff (g g' : Group) : g.Apart g' ↔ ∀ field ∈ g.fields, field ∉ g'.fields := by
  cases g <;> cases g' <;> decide

/-! ### Changes that keep to some fields -/

/-- A change of a draft that keeps to some fields, on drafts with one model of each id. -/
structure Confined (fields : List Field) (f : Draft → Draft) : Prop where
  distinct {d : Draft} (hd : d.Distinct) : (f d).Distinct
  /-- The other fields stay as they are. -/
  frame {d : Draft} (hd : d.Distinct) : ∀ field ∉ fields, field.get (f d) = field.get d
  /-- What becomes of the fields depends on no other field. -/
  reads {d d' : Draft} (hd : d.Distinct) (hd' : d'.Distinct)
    (h : ∀ field ∈ fields, field.get d = field.get d') :
    ∀ field ∈ fields, field.get (f d) = field.get (f d')

theorem confined_id (fields : List Field) : Confined fields id where
  distinct := id
  frame _ _ _ := rfl
  reads _ _ := id

/-- **Changes that have no field in common can change places.** -/
theorem Confined.comm {fields fields' : List Field} {f f' : Draft → Draft} (h : Confined fields f)
    (h' : Confined fields' f') (hapart : ∀ field ∈ fields, field ∉ fields') {d : Draft}
    (hd : d.Distinct) : f (f' d) = f' (f d) := by
  refine ext_get fun field => ?_
  by_cases hmem : field ∈ fields
  · calc field.get (f (f' d))
        = field.get (f d) := h.reads (h'.distinct hd) hd
          (fun other hother => h'.frame hd other (hapart other hother)) field hmem
      _ = field.get (f' (f d)) := (h'.frame (h.distinct hd) field (hapart field hmem)).symm
  · by_cases hmem' : field ∈ fields'
    · calc field.get (f (f' d))
          = field.get (f' d) := h.frame (h'.distinct hd) field hmem
        _ = field.get (f' (f d)) := h'.reads hd (h.distinct hd)
          (fun other hother => (h.frame hd other fun hin => hapart other hin hother).symm) field hmem'
    · rw [h.frame (h'.distinct hd) field hmem, h'.frame hd field hmem',
        h'.frame (h.distinct hd) field hmem', h.frame hd field hmem]

end Draft

/-! ### Directives -/

def Directive.fields : Directive → List Draft.Field
  | .route .. => Draft.Group.route.fields
  | .title _ => Draft.Group.title.fields
  | .description _ => Draft.Group.description.fields
  | .notes _ => Draft.Group.notes.fields
  | .resource _ => Draft.Group.resource.fields
  | .contentTypes .. => Draft.Group.contentTypes.fields
  | .parameter .. => Draft.Group.parameter.fields
  | .response .. => Draft.Group.response.fields
  | .other _ => []

namespace Draft

theorem Distinct.performed_none {d : Draft} (hd : d.Distinct) (directive : Directive) :
    (performed d none directive).distinct = { performed d none directive with models := d.models } := by
  have hmodels : Model.dedup (performed d none directive).models = d.models := by
    rw [Draft.performed_none]
    exact congrArg Draft.models hd
  unfold distinct
  rw [hmodels]

theorem confined_contentTypes (consumed produced : Bool) (names : List String) :
    Confined Group.contentTypes.fields fun d =>
      (performed d none (.contentTypes consumed produced names)).distinct where
  distinct _ := distinct_distinct _
  frame := by
    intro d hd field hfield
    rw [hd.performed_none]
    cases field
    case consumes | produces => exact absurd (by decide) hfield
    all_goals rfl
  reads := by
    intro d d' hd hd' h field hfield
    rw [hd.performed_none, hd'.performed_none]
    have hconsumes : d.operation.consumes = d'.operation.consumes := h .consumes (by decide)
    have hproduces : d.operation.produces = d'.operation.produces := h .produces (by decide)
    cases field
    case consumes =>
      exact congrArg (fun old => if consumed then names.foldl pushNew old else old) hconsumes
    case produces =>
      exact congrArg (fun old => if produced then names.foldl pushNew old else old) hproduces
    all_goals exact absurd hfield (by decide)

theorem confined_parameter (found : Option Resolved) (name location type : String) (required : Bool)
    (description : String) : Confined Group.parameter.fields fun d =>
      (performed d found (.parameter name location type required description)).distinct where
  distinct _ := distinct_distinct _
  frame := by
    intro d hd field hfield
    cases field
    case parameters | models => exact absurd (by decide) hfield
    all_goals rfl
  reads := by
    intro d d' _ _ h field hfield
    have hparameters : d.operation.parameters = d'.operation.parameters := h .parameters (by decide)
    have hmodels : d.models = d'.models := h .models (by decide)
    cases field
    case parameters => exact congrArg (· ++ _) hparameters
    case models => exact congrArg (fun ms => Model.dedup (ms ++ _)) hmodels
    all_goals exact absurd hfield (by decide)

theorem confined_response (found : Option Resolved) (code : Int32) (marker type message : String) :
    Confined Group.response.fields fun d =>
      (performed d found (.response code marker type message)).distinct where
  distinct _ := distinct_distinct _
  frame := by
    intro d hd field hfield
    obtain ⟨_, _, hop⟩ := performedOn_response d.operation found code marker type message
    unfold performed distinct
    rw [hop]
    cases field
    case type | items | responseMessages | models => exact absurd (by decide) hfield
    all_goals rfl
  reads := by
    intro d d' _ _ h field hfield
    let directive := Directive.response code marker type message
    have htype : d.operation.type = d'.operation.type := h .type (by decide)
    have hitems : d.operation.items = d'.operation.items := h .items (by decide)
    have hresponses : d.operation.responseMessages = d'.operation.responseMessages :=
      h .responseMessages (by decide)
    have hmodels : d.models = d'.models := h .models (by decide)
    have hadded := (performedOn_adds d.operation found directive).2.1
    have hadded' := (performedOn_adds d'.operation found directive).2.1
    have hresult : (performedOn d.operation found directive).type =
          (performedOn d'.operation found directive).type ∧
        (performedOn d.operation found directive).items =
          (performedOn d'.operation found directive).items := by
      dsimp only [directive, performedOn]
      by_cases hcode : code = 200
      · rw [if_pos hcode, if_pos hcode]
        unfold withResult
        split_ifs <;> exact ⟨rfl, rfl⟩
      · rw [if_neg hcode, if_neg hcode]
        exact ⟨htype, hitems⟩
    cases field
    case type => exact hresult.1
    case items => exact hresult.2
    case responseMessages => exact hadded.trans (hresponses ▸ hadded'.symm)
    case models => exact congrArg (fun ms => Model.dedup (ms ++ _)) hmodels
    all_goals exact absurd hfield (by decide)

/-- **A directive keeps to its fields.** -/
theorem confined_performed {directive : Directive} {found : Option Resolved}
    (hfound : directive.asked? = none → found = none) :
    Confined directive.fields fun d => (performed d found directive).distinct := by
  cases directive with
  | parameter name location type required description =>
    exact confined_parameter found name location type required description
  | response code marker type message => exact confined_response found code marker type message
  | contentTypes consumed produced names =>
    obtain rfl := hfound rfl
    exact confined_contentTypes consumed produced names
  | route | title | description | notes | resource | other =>
    -- The fields are set to values of the directive, whatever the draft.
    obtain rfl := hfound rfl
    refine { distinct := fun _ => distinct_distinct _
             frame := fun hd field hfield => ?_
             reads := fun hd hd' _ field hfield => ?_ }
    · rw [hd.performed_none]
      cases field <;> first | rfl | simp [Directive.fields, Group.fields] at hfield
    · rw [hd.performed_none, hd'.performed_none]
      cases field <;> first | rfl | simp [Directive.fields, Group.fields] at hfield

end Draft

/-! ### Lines -/

namespace Line

/-- The group of the fields that a line may write. -/
def group? (line : String) : Option Draft.Group :=
  match tag line with
  | "@Router" | "@router" => some .route
  | "@Title" => some .title
  | "@Description" => some .description
  | "@Notes" => some .notes
  | "@Resource" => some .resource
  | "@Param" => some .parameter
  | "@Accept" | "@Consume" | "@Produce" => some .contentTypes
  | "@Success" | "@Failure" => some .response
  | _ => none

/-- The fields that a line may write. -/
def fields (line : String) : List Draft.Field :=
  match group? line with
  | some group => group.fields
  | none => []

/-- Lines that can change places: their groups are apart, or one of them has none. -/
def Apart (a b : String) : Prop := ∀ g ∈ group? a, ∀ g' ∈ group? b, g.Apart g'

instance (a b : String) : Decidable (Apart a b) := by unfold Apart; infer_instance

variable {line a b : String}

theorem group?_eq_none (h : tag line ∉ tags) : group? line = none := by
  unfold group?
  split
  case h_13 => rfl
  all_goals exact absurd (by simp [*, tags]) h

/-- A directive may write the fields that its tag says. -/
theorem Says.fields_eq {directive : Directive} (h : Says line directive) :
    directive.fields = fields line := by
  unfold fields
  cases h with
  | other _ htag => rw [group?_eq_none htag]; rfl
  | contentTypes htag _ =>
    simp only [contentTags, List.mem_cons, Prod.mk.injEq, List.not_mem_nil, or_false] at htag
    unfold group?
    rcases htag with ⟨htag, -⟩ | ⟨htag, -⟩ | ⟨htag, -⟩ <;> rw [htag] <;> rfl
  | route htag _ => unfold group?; rcases htag with htag | htag <;> rw [htag] <;> rfl
  | response htag _ _ => unfold group?; rcases htag with htag | htag <;> rw [htag] <;> rfl
  | title htag | description htag | notes htag | resource htag _ | parameter htag _ =>
    unfold group?
    rw [htag]
    rfl

theorem package_not_mem_fields (line : String) : .package ∉ fields line := by
  unfold fields
  split
  · rename_i group _
    cases group <;> decide
  · exact List.not_mem_nil

theorem Apart.symm (h : Apart a b) : Apart b a := fun g hg g' hg' => by
  obtain ⟨hne, hpair, hpair'⟩ := h g' hg' g hg
  exact ⟨hne.symm, fun hboth => hpair' hboth.symm, fun hboth => hpair hboth.symm⟩

theorem Apart.fields (h : Apart a b) : ∀ field ∈ fields a, field ∉ fields b := by
  unfold Line.fields
  cases ha : group? a with
  | none => exact fun _ hmem => absurd hmem List.not_mem_nil
  | some g =>
    cases hb : group? b with
    | none => exact fun _ _ => List.not_mem_nil
    | some g' => exact (Draft.Group.apart_iff g g').mp (h g ha g' hb)

theorem Consults.group? {type : String} (h : Consults line type) :
    group? line = some .parameter ∨ group? line = some .response := by
  unfold Line.group?
  cases h with
  | parameter htag _ _ => rw [htag]; exact Or.inl rfl
  | response htag _ _ _ _ => rcases htag with htag | htag <;> rw [htag] <;> exact Or.inr rfl

/-- Of two lines that are apart, one has no type looked up. -/
theorem Apart.quiet (h : Apart a b) : (∀ type, ¬ Consults a type) ∨ ∀ type, ¬ Consults b type := by
  by_contra hboth
  simp only [not_or, not_forall, not_not] at hboth
  obtain ⟨⟨type, ha⟩, type', hb⟩ := hboth
  rcases ha.group? with hga | hga <;> rcases hb.group? with hgb | hgb <;>
    exact absurd (h _ hga _ hgb) (by decide)

end Line

namespace InPlace

open Draft (Confined Field)

variable {σ : Type} (types : Lookup σ) {a b text : String}

theorem confined_says {directive : Directive} {found : Option Resolved}
    (h : Line.Says text directive) (hfound : directive.asked? = none → found = none) :
    Confined (Line.fields text) fun d => (Draft.performed d found directive).distinct := by
  rw [← h.fields_eq]
  exact Draft.confined_performed hfound

/-- A line that has no type looked up keeps to its fields, and does the same in every state. -/
theorem line_quiet (hquiet : ∀ type, ¬ Line.Consults text type) :
    ∃ result f, Confined (Line.fields text) f ∧
      ∀ (d : Draft) (s : σ), line types text (d, s) = (result, (f d, s)) := by
  rcases Line.kinds text with hplain | hmalformed | ⟨directive, hsaid⟩
  · refine ⟨.ok (), id, Draft.confined_id _, fun d s => ?_⟩
    rw [line_eq, Draft.applyLine_of_not_isTagged types d s hplain]
    rfl
  · let e := Error.malformedDirective (Text.trimmed text) (Line.complaint text)
    refine ⟨.error e, id, Draft.confined_id _, fun d s => ?_⟩
    rw [line_eq, Draft.applyLine_of_malformed types d s hmalformed]
    rfl
  · have hasked : directive.asked? = none :=
      Option.eq_none_iff_forall_ne_some.mpr fun type h => hquiet type (hsaid.consults_iff.mpr h)
    let f := fun d : Draft => (Draft.performed d none directive).distinct
    have hf : Confined (Line.fields text) f := confined_says hsaid fun _ => rfl
    refine ⟨.ok (), f, hf, fun d s => ?_⟩
    rw [line_eq, Draft.applyLine_of_directive types d s hsaid, hasked]

/-- **A line keeps to its fields**, and does the same to all drafts of a package. -/
theorem line_confined (text package : String) (s : σ) :
    ∃ result f s', Confined (Line.fields text) f ∧
      ∀ d : Draft, d.package = package → line types text (d, s) = (result, (f d, s')) := by
  by_cases hquiet : ∀ type, ¬ Line.Consults text type
  · obtain ⟨result, f, hf, hline⟩ := line_quiet types hquiet
    exact ⟨result, f, s, hf, fun d _ => hline d s⟩
  · obtain ⟨type, hconsults⟩ := not_forall_not.mp hquiet
    obtain ⟨directive, hsaid, hasked⟩ := Line.consults_iff.mp hconsults
    have hline := fun d : Draft => Draft.applyLine_of_directive types d s hsaid
    simp only [hasked] at hline
    rcases hanswer : types type package s with ⟨e | found, s'⟩
    · refine ⟨.error e, id, s', Draft.confined_id _, fun d hd => ?_⟩
      rw [line_eq, hline, hd, hanswer]
      rfl
    · let f := fun d : Draft => (Draft.performed d (some found) directive).distinct
      have hf : Confined (Line.fields text) f :=
        confined_says hsaid fun hnone => nomatch hasked.symm.trans hnone
      refine ⟨.ok (), f, s', hf, fun d hd => ?_⟩
      rw [line_eq, hline, hd, hanswer]

/-- The lines `a` and `b` do the same in either order. -/
def Swap (types : Lookup σ) (a b : String) (d : Draft) (s : σ) : Prop :=
  let first := line types a (d, s)
  let second := line types b first.2
  let first' := line types b (d, s)
  let second' := line types a first'.2
  second.2 = second'.2 ∧ first.1 = second'.1 ∧ second.1 = first'.1

theorem Swap.symm {d : Draft} {s : σ} (h : Swap types a b d s) : Swap types b a d s :=
  ⟨h.1.symm, h.2.2.symm, h.2.1.symm⟩

/-- The one that has no type looked up can change places with a line before it. -/
theorem swap_quiet {d : Draft} (hd : d.Distinct) (hapart : Line.Apart a b)
    (hquiet : ∀ type, ¬ Line.Consults b type) (s : σ) : Swap types a b d s := by
  obtain ⟨ra, fa, s', hfa, ha⟩ := line_confined types a d.package s
  obtain ⟨rb, fb, hfb, hb⟩ := line_quiet types hquiet
  have hpackage : (fb d).package = d.package :=
    hfb.frame hd .package (Line.package_not_mem_fields b)
  have hcomm : fa (fb d) = fb (fa d) := hfa.comm hfb hapart.fields hd
  unfold Swap
  rw [ha d rfl, hb d s]
  dsimp only
  rw [hb (fa d) s', ha (fb d) hpackage, hcomm]
  exact ⟨rfl, rfl, rfl⟩

/-- **Lines keep to the fields of their group, and to no order of the groups.**  A line, whether it
succeeds or fails, leaves the fields of other groups as they are; and lines of different groups come
to the same operation with the same results in either order, unless one of them is about a parameter
and the other about an answer.  The models have different ids on the way, as they have after any
lines. -/
theorem line_groups (types : Lookup σ) :
    (∀ package lines (s : σ),
      ((Draft.applyEach types (Draft.start package) lines s).1.models.map (·.id)).Nodup) ∧
    ∀ (d : Draft) (s : σ), (d.models.map (·.id)).Nodup →
      (∀ text, ∀ field ∉ Line.fields text, field.get (line types text (d, s)).2.1 = field.get d) ∧
      ∀ a b, Line.Apart a b → Swap types a b d s := by
  refine ⟨fun package lines s => ?_, fun d s hids => ?_⟩
  · exact Draft.distinct_iff.mp (Draft.distinct_applyEach (Draft.distinct_start package) lines s)
  · have hd : d.Distinct := Draft.distinct_iff.mpr hids
    refine ⟨fun text field hfield => ?_, fun a b hapart => ?_⟩
    · obtain ⟨_, f, _, hf, hline⟩ := line_confined types text d.package s
      rw [hline d rfl]
      exact hf.frame hd field hfield
    · rcases hapart.quiet with hquiet | hquiet
      · exact (swap_quiet types hd hapart.symm hquiet s).symm
      · exact swap_quiet types hd hapart hquiet s

/-- An operation that refers to a model already. -/
def shownOrder : Draft := (Draft.applyEach Draft.bareModel (Draft.start "shop") Draft.orderLines ()).1

theorem line_groups_shownOrder :
    (shownOrder.models.map (·.id)).Nodup ∧
      Field.responseMessages ∉ Line.fields "@Param item body Item required" ∧
      (line Draft.bareModel "@Param item body Item required"
        (shownOrder, ())).2.1.operation.responseMessages = shownOrder.operation.responseMessages ∧
      Line.Apart "@Param item body Item required" "@Accept json, xml" ∧
      Swap Draft.bareModel "@Param item body Item required" "@Accept json, xml" shownOrder () := by
  have hids : (shownOrder.models.map (·.id)).Nodup := by decide +kernel
  have hfield : Field.responseMessages ∉ Line.fields "@Param item body Item required" := by
    decide +kernel
  have hapart : Line.Apart "@Param item body Item required" "@Accept json, xml" := by
    decide +kernel
  obtain ⟨hframe, hswap⟩ := (line_groups Draft.bareModel).2 shownOrder () hids
  exact ⟨hids, hfield, hframe _ _ hfield, hapart, hswap _ _ hapart⟩

end InPlace

end ApiScribe
