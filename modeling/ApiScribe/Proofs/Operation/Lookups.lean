import ApiScribe.Proofs.Operation.Grammar
import ApiScribe.Proofs.Operation.References

/-!
# What a line looks up and does

A directive asks for one type at most (`Directive.asked?`), and what it makes of a draft depends on
the answer only (`Draft.performed`).  So there are five ways in which a line can come to its end,
the constructors of `Draft.Does`; `does_applyLine` says that a line goes one of them, and with which
lookups.  With the grammar it follows which lines are ignored, which are refused and which look a
type up (`applyLine_grammar`).
-/

namespace ApiScribe

/-- A lookup that has been made, with its answer. -/
structure Call where
  type : String
  package : String
  answer : Except Error Resolved
  deriving DecidableEq

/-- The lookup that keeps a log of its calls. -/
def Lookup.logged {σ : Type} (types : Lookup σ) : Lookup (σ × List Call) :=
  fun type package (s, log) =>
    let (answer, s') := types type package s
    (answer, (s', log ++ [{ type, package, answer }]))

/-- A name that may be that of a model. -/
def TypeName.IsLookedUp (type : String) : Prop := type ≠ "error" ∧ ¬ TypeName.isBasic type

instance (type : String) : Decidable (TypeName.IsLookedUp type) := by
  unfold TypeName.IsLookedUp
  infer_instance

/-- The type that a directive has looked up. -/
def Directive.asked? : Directive → Option String
  | .parameter _ _ type _ _ => if TypeName.IsLookedUp type then some type else none
  | .response code marker type _ =>
    if code = 200 ∧ (marker = "\x7bobject\x7d" ∨ marker = "\x7barray\x7d") ∧
        TypeName.IsLookedUp type then some type
    else none
  | _ => none

theorem Directive.asked?_parameter (name location type : String) (required : Bool)
    (description : String) : (Directive.parameter name location type required description).asked? =
      if TypeName.IsLookedUp type then some type else none := rfl

theorem Directive.asked?_response (code : Int32) (marker type message : String) :
    (Directive.response code marker type message).asked? =
      if code = 200 ∧ (marker = "\x7bobject\x7d" ∨ marker = "\x7barray\x7d") ∧
        TypeName.IsLookedUp type then some type else none := rfl

namespace Draft

/-! ### From the answer of a lookup to the draft -/

/-- What a type name refers to, from the answer of its lookup if there was one. -/
def refOf (type : String) : Option Resolved → TypeRef
  | none => .primitive type
  | some (.primitive name) => .primitive name
  | some (.model model _) => .model model.id

def modelsOf : Option Resolved → List Model
  | some (.model model inner) => model :: inner
  | _ => []

/-- What a directive makes of an operation. -/
def performedOn (op : Operation) (found : Option Resolved) : Directive → Operation
  | .route path method => { op with path := path, httpMethod := method }
  | .title text => { op with nickname := text }
  | .description text => { op with summary := text }
  | .notes text => { op with notes := text }
  | .parameter name location type required description =>
    { op with parameters := op.parameters ++
        [{ location, name, description, dataType := (refOf type found).name,
           type := (refOf type found).name, required }] }
  | .contentTypes consumed produced names =>
    { op with
      consumes := if consumed then names.foldl pushNew op.consumes else op.consumes
      produces := if produced then names.foldl pushNew op.produces else op.produces }
  | .response code marker type message =>
    let result := if code = 200 then withResult op marker (refOf type found) else op
    { result with responseMessages := result.responseMessages ++
        [{ code, message,
           responseModel := if code = 200 then (refOf type found).modelId else "" }] }
  | .resource _ | .other _ => op

/-- What a directive makes of a draft, before the models are made unique. -/
def performed (d : Draft) (found : Option Resolved) (directive : Directive) : Draft :=
  { d with
    operation := performedOn d.operation found directive
    models := d.models ++ modelsOf found
    resource := match directive with
      | .resource name => some name
      | _ => d.resource }

theorem performed_none (d : Draft) (directive : Directive) : performed d none directive =
    { d with
      operation := performedOn d.operation none directive
      resource := match directive with
        | .resource name => some name
        | _ => d.resource } := by
  simp only [performed, modelsOf, List.append_nil]

/-- The draft with the first model of each id. -/
def distinct (d : Draft) : Draft := { d with models := Model.dedup d.models }

section

variable {σ : Type} (types : Lookup σ) (d : Draft) (s : σ)

/-- What comes after looking a type up goes on with what it refers to and with its models. -/
theorem registerType_bind {α : Type} (type : String)
    (k : TypeRef × Draft → ExceptT Error (StateM σ) α) : (registerType types d type >>= k) s =
      if TypeName.IsLookedUp type then
        match types type d.package s with
        | (.ok found, s') =>
          k (refOf type (some found), { d with models := d.models ++ modelsOf (some found) }) s'
        | (.error e, s') => (.error e, s')
      else k (.primitive type, d) s := by
  by_cases h : TypeName.IsLookedUp type
  · have hrun : registerType types d type s = match types type d.package s with
        | (.ok found, s') =>
          (.ok (refOf type (some found), { d with models := d.models ++ modelsOf (some found) }), s')
        | (.error e, s') => (.error e, s') := by
      unfold registerType
      rw [if_neg (by rintro (rfl | hbasic); exacts [h.1 rfl, h.2 hbasic])]
      rcases hanswer : types type d.package s with ⟨e | (name | ⟨model, inner⟩), s'⟩
      · rw [exceptT_bind_error hanswer]
      · rw [exceptT_bind_ok hanswer]
        simp only [modelsOf, List.append_nil]
        rfl
      · rw [exceptT_bind_ok hanswer]
        rfl
    rw [if_pos h]
    rcases hanswer : types type d.package s with ⟨e | found, s'⟩
    · rw [hanswer] at hrun
      exact exceptT_bind_error hrun
    · rw [hanswer] at hrun
      exact exceptT_bind_ok hrun
  · have hbasic : type = "error" ∨ TypeName.isBasic type := by
      unfold TypeName.IsLookedUp at h
      tauto
    rw [if_neg h, registerType, if_pos hbasic]
    rfl

theorem addResponse_eq (code : Int32) (marker type message : String) :
    addResponse types d code marker type message s =
      match (Directive.response code marker type message).asked? with
      | none => (.ok (performed d none (.response code marker type message)), s)
      | some asked => match types asked d.package s with
        | (.ok found, s') =>
          (.ok (performed d (some found) (.response code marker type message)), s')
        | (.error e, s') => (.error e, s') := by
  rw [Directive.asked?_response, performed_none]
  unfold addResponse
  by_cases hcode : code = 200
  · subst hcode
    rw [if_neg (not_not_intro rfl)]
    by_cases hmodel : marker = "\x7bobject\x7d" ∨ marker = "\x7barray\x7d"
    · rw [if_pos hmodel, registerType_bind]
      by_cases h : TypeName.IsLookedUp type
      · rw [if_pos h, if_pos ⟨rfl, hmodel, h⟩]
        dsimp only
        rcases types type d.package s with ⟨e | found, s'⟩ <;> rfl
      · rw [if_neg h, if_neg fun hall => h hall.2.2]
        rfl
    · rw [if_neg hmodel, if_neg fun hall => hmodel hall.2.1]
      rfl
  · rw [if_pos hcode, if_neg fun hall => hcode hall.1]
    dsimp only [performedOn]
    rw [if_neg hcode, if_neg hcode]
    rfl

/-- **A directive asks for its type, and what it makes of the draft is up to the answer.** -/
theorem applyRaw_eq (directive : Directive) : applyRaw types d directive s =
    match directive.asked? with
    | none => (.ok (performed d none directive), s)
    | some asked => match types asked d.package s with
      | (.ok found, s') => (.ok (performed d (some found) directive), s')
      | (.error e, s') => (.error e, s') := by
  cases directive with
  | response code marker type message => exact addResponse_eq types d s code marker type message
  | parameter name location type required description =>
    rw [Directive.asked?_parameter, performed_none, applyRaw, registerType_bind]
    by_cases h : TypeName.IsLookedUp type
    · rw [if_pos h, if_pos h]
      dsimp only
      rcases types type d.package s with ⟨e | found, s'⟩ <;> rfl
    · rw [if_neg h, if_neg h]
      rfl
  | route | title | description | notes | resource | contentTypes | other =>
    rw [performed_none]
    rfl

/-! ### Lines -/

/-- What becomes of a draft by a line: the result, the draft after it and the lookups made, where
types are looked up as `answers` says. -/
inductive Does (answers : String → Except Error Resolved) (d : Draft) (line : String) :
    Except Error Unit → Draft → List Call → Prop
  /-- The line is no directive. -/
  | plain (h : ¬ Line.IsTagged line) : Does answers d line (.ok ()) d []
  /-- The line breaks the grammar. -/
  | malformed (h : Line.Malformed line) :
      Does answers d line (.error (.malformedDirective (Text.trimmed line) (Line.complaint line))) d
        []
  /-- The directive asks for no type. -/
  | done {directive : Directive} (h : Line.Says line directive) (hasked : directive.asked? = none) :
      Does answers d line (.ok ()) (performed d none directive).distinct []
  /-- The type of the directive is found. -/
  | found {directive : Directive} {type : String} {found : Resolved}
      (h : Line.Says line directive) (hasked : directive.asked? = some type)
      (hanswer : answers type = .ok found) :
      Does answers d line (.ok ()) (performed d (some found) directive).distinct
        [{ type, package := d.package, answer := .ok found }]
  /-- The type of the directive is not found. -/
  | failed {directive : Directive} {type : String} {e : Error} (h : Line.Says line directive)
      (hasked : directive.asked? = some type) (hanswer : answers type = .error e) :
      Does answers d line (.error e) d [{ type, package := d.package, answer := .error e }]

theorem applyLine_of_not_isTagged {line : String} (h : ¬ Line.IsTagged line) :
    applyLine types d line s = ((.ok (), d), s) := by
  unfold applyLine
  rw [Line.read?_of_not_isTagged h]
  rfl

theorem applyLine_of_malformed {line : String} (h : Line.Malformed line) :
    applyLine types d line s =
      ((.error (.malformedDirective (Text.trimmed line) (Line.complaint line)), d), s) := by
  unfold applyLine
  rw [h.read?]
  rfl

theorem applyLine_of_directive {line : String} {directive : Directive} (h : Line.Says line directive) :
    applyLine types d line s = match directive.asked? with
      | none => ((.ok (), (performed d none directive).distinct), s)
      | some asked => match types asked d.package s with
        | (.ok found, s') => ((.ok (), (performed d (some found) directive).distinct), s')
        | (.error e, s') => ((.error e, d), s') := by
  rw [applyLine_apply, h.read?]
  dsimp only
  rw [applyRaw_eq]
  cases directive.asked? with
  | none => rfl
  | some asked =>
    dsimp only
    rcases types asked d.package s with ⟨e | found, s'⟩ <;> rfl

/-- **What a line does, whether a log is kept of its lookups or not.** -/
theorem does_applyLine (line : String) : ∃ result d' s' calls,
    applyLine types d line s = ((result, d'), s') ∧
      (∀ log, applyLine types.logged d line (s, log) = ((result, d'), (s', log ++ calls))) ∧
      Does (fun type => (types type d.package s).1) d line result d' calls := by
  rcases Line.kinds line with hplain | hmalformed | ⟨directive, hsaid⟩
  · exact ⟨_, _, _, [], applyLine_of_not_isTagged types d s hplain,
      fun log => by rw [applyLine_of_not_isTagged _ _ _ hplain, List.append_nil], .plain hplain⟩
  · exact ⟨_, _, _, [], applyLine_of_malformed types d s hmalformed,
      fun log => by rw [applyLine_of_malformed _ _ _ hmalformed, List.append_nil],
      .malformed hmalformed⟩
  · simp only [applyLine_of_directive _ _ _ hsaid]
    cases hasked : directive.asked? with
    | none => exact ⟨_, _, _, [], rfl, fun log => by rw [List.append_nil], .done hsaid hasked⟩
    | some type =>
      simp only [Lookup.logged]
      rcases hanswer : types type d.package s with ⟨e | found, s'⟩
      · exact ⟨_, _, _, _, rfl, fun log => rfl, .failed hsaid hasked (by rw [hanswer])⟩
      · exact ⟨_, _, _, _, rfl, fun log => rfl, .found hsaid hasked (by rw [hanswer])⟩

end

end Draft

/-! ### The grammar in the words of a line -/

namespace Line

variable {line : String}

/-- A line that means nothing for an operation: it is no directive, or one with another tag. -/
def Ignored (line : String) : Prop :=
  Directive.read? line = .ok none ∨ ∃ tag, Directive.read? line = .ok (some (.other tag))

theorem ignored_iff : Ignored line ↔ ¬ IsTagged line ∨ tag line ∉ tags := by
  unfold Ignored
  rw [read?_eq_none_iff]
  simp only [read?_eq_some_iff]
  constructor
  · rintro (hplain | ⟨_, hsaid⟩)
    · exact Or.inl hplain
    · cases hsaid with
      | other _ htag => exact Or.inr htag
  · rintro (hplain | htag)
    · exact Or.inl hplain
    · by_cases htagged : IsTagged line
      · exact Or.inr ⟨_, .other htagged htag⟩
      · exact Or.inl htagged

/-- The lines that have a type looked up. -/
inductive Consults (line : String) : String → Prop
  | parameter {name location type flag : List Char} {more : List (List Char)}
      (htag : tag line = "@Param") (hwords : words line = name :: location :: type :: flag :: more)
      (htype : TypeName.IsLookedUp (String.ofList type)) : Consults line (String.ofList type)
  | response {code marker type : List Char} {more : List (List Char)}
      (htag : tag line = "@Success" ∨ tag line = "@Failure")
      (hwords : words line = code :: marker :: type :: more) (hcode : Text.Signed code 200)
      (hmarker : String.ofList marker = "\x7bobject\x7d" ∨ String.ofList marker = "\x7barray\x7d")
      (htype : TypeName.IsLookedUp (String.ofList type)) : Consults line (String.ofList type)

theorem consults_iff {type : String} :
    Consults line type ↔ ∃ directive, Says line directive ∧ directive.asked? = some type := by
  constructor
  · rintro (⟨htag, hwords, htype⟩ | ⟨htag, hwords, hcode, hmarker, htype⟩)
    · exact ⟨_, .parameter htag hwords, if_pos htype⟩
    · exact ⟨_, .response (n := 200) htag hwords hcode, if_pos ⟨rfl, hmarker, htype⟩⟩
  · rintro ⟨_, hsaid, hasked⟩
    cases hsaid with
    | parameter htag hwords =>
      rw [Directive.asked?_parameter] at hasked
      obtain ⟨htype, htaken⟩ := Option.ite_none_right_eq_some.mp hasked
      cases htaken
      exact .parameter htag hwords htype
    | response htag hwords hcode =>
      rw [Directive.asked?_response] at hasked
      obtain ⟨⟨rfl, hmarker, htype⟩, htaken⟩ := Option.ite_none_right_eq_some.mp hasked
      cases htaken
      exact .response htag hwords hcode hmarker htype
    | route | title | description | notes | resource | contentTypes | other => cases hasked

theorem Says.consults_iff {directive : Directive} (h : Says line directive) {type : String} :
    Consults line type ↔ directive.asked? = some type := by
  rw [Line.consults_iff]
  constructor
  · rintro ⟨directive', h', hasked⟩
    rwa [h.unique h']
  · exact fun hasked => ⟨directive, h, hasked⟩

theorem Consults.isTagged {type : String} (h : Consults line type) : IsTagged line := by
  obtain ⟨_, hsaid, -⟩ := consults_iff.mp h
  exact hsaid.isTagged

theorem Consults.not_malformed {type : String} (h : Consults line type) : ¬ Malformed line := by
  obtain ⟨_, hsaid, -⟩ := consults_iff.mp h
  exact hsaid.not_malformed

end Line

/-! ### What a line comes to -/

namespace Draft

section

variable {answers : String → Except Error Resolved} {d d' : Draft} {line : String}
  {result : Except Error Unit} {calls : List Call}

theorem Does.error_iff_malformed (h : Does answers d line result d' calls) (e : Error) :
    result = .error e ∧ calls = [] ↔
      Line.Malformed line ∧ e = .malformedDirective (Text.trimmed line) (Line.complaint line) := by
  cases h with
  | plain hplain => simp [mt Line.Malformed.isTagged hplain]
  | malformed hmalformed => simp [hmalformed, eq_comm]
  | done hsaid => simp [hsaid.not_malformed]
  | found hsaid => simp [hsaid.not_malformed]
  | failed hsaid => simp [hsaid.not_malformed]

/-- A line that fails after a lookup passes the error of the lookup on. -/
theorem Does.error_iff_answer (h : Does answers d line result d' calls) (e : Error) :
    result = .error e ∧ calls ≠ [] ↔ ∃ call ∈ calls, call.answer = .error e := by
  cases h <;> simp

theorem Does.length_calls_le (h : Does answers d line result d' calls) : calls.length ≤ 1 := by
  cases h <;> simp

theorem mem_answered_iff {type package : String} {call : Call} :
    call ∈ [⟨type, package, answers type⟩] ↔
      some type = some call.type ∧ call.package = package ∧ call.answer = answers call.type := by
  obtain ⟨type', package', answer⟩ := call
  simp only [List.mem_singleton, Call.mk.injEq, Option.some.injEq]
  constructor <;> rintro ⟨rfl, rfl, rfl⟩ <;> exact ⟨rfl, rfl, rfl⟩

/-- A line looks up the type that it asks for, and no other. -/
theorem Does.mem_calls_iff (h : Does answers d line result d' calls) (call : Call) :
    call ∈ calls ↔ Line.Consults line call.type ∧ call.package = d.package ∧
      call.answer = answers call.type := by
  cases h with
  | plain hplain => simp [mt Line.Consults.isTagged hplain]
  | malformed hmalformed =>
    have hnot : ¬ Line.Consults line call.type := fun h => h.not_malformed hmalformed
    simp [hnot]
  | done hsaid hasked => simp [hsaid.consults_iff, hasked]
  | found hsaid hasked hanswer =>
    rw [hsaid.consults_iff, hasked, ← hanswer]
    exact mem_answered_iff
  | failed hsaid hasked hanswer =>
    rw [hsaid.consults_iff, hasked, ← hanswer]
    exact mem_answered_iff

end

variable {σ : Type}

/-- A line that is ignored leaves the draft as it is; only that with a tag, the models are made
unique as after any directive. -/
theorem applyLine_of_ignored (types : Lookup σ) (d : Draft) (s : σ) {line : String}
    (h : Line.Ignored line) : applyLine types d line s =
      ((.ok (), if Line.IsTagged line then d.distinct else d), s) := by
  by_cases htagged : Line.IsTagged line
  · have hother := (Line.ignored_iff.mp h).resolve_left (not_not_intro htagged)
    rw [if_pos htagged, applyLine_of_directive types d s (.other htagged hother)]
    simp only [Directive.asked?, performed_none]
    rfl
  · rw [if_neg htagged, applyLine_of_not_isTagged types d s htagged]

def lineCalls (types : Lookup σ) (d : Draft) (line : String) (s : σ) : List Call :=
  (applyLine types.logged d line (s, [])).2.2

/-- **The grammar of directives.**  A line is ignored, by its first character or by its tag; it
breaks the grammar of its tag; or it is a directive, looks its type up if it is to have one, and is
performed with the answer.  A line that fails without a lookup is malformed, and the other failures
are those of the lookup.  (A lookup may answer with any error, also with one that blames a
directive.) -/
theorem applyLine_grammar (types : Lookup σ) (d : Draft) (line : String) (s : σ) :
    let ran := (applyLine types d line s).1
    let calls := lineCalls types d line s
    Does (fun type => (types type d.package s).1) d line ran.1 ran.2 calls ∧
      (Line.Ignored line ↔ ¬ Line.IsTagged line ∨ Line.tag line ∉ Line.tags) ∧
      (Line.Ignored line → calls = [] ∧ applyLine types d line s =
        ((.ok (), if Line.IsTagged line then d.distinct else d), s)) ∧
      (∀ e, ran.1 = .error e ∧ calls = [] ↔ Line.Malformed line ∧
        e = .malformedDirective (Text.trimmed line) (Line.complaint line)) ∧
      ((∀ call ∈ calls, ∀ e, call.answer = .error e → ¬ e.isMalformed) →
        ((∃ e, ran.1 = .error e ∧ e.isMalformed) ↔ Line.Malformed line)) ∧
      calls.length ≤ 1 ∧
      (∀ call, call ∈ calls ↔ Line.Consults line call.type ∧ call.package = d.package ∧
        call.answer = (types call.type d.package s).1) ∧
      (∀ type, Line.Consults line type → ¬ Line.Malformed line) ∧
      ∀ e, ran.1 = .error e ∧ calls ≠ [] ↔ ∃ call ∈ calls, call.answer = .error e := by
  intro ran calls
  obtain ⟨result, d', s', calls', hrun, hlogged, hdoes⟩ := does_applyLine types d s line
  obtain rfl : calls = calls' := by simp only [calls, lineCalls, hlogged, List.nil_append]
  have hran : ran = (result, d') := by simp only [ran, hrun]
  rw [hran]
  refine ⟨hdoes, Line.ignored_iff, fun hignored => ⟨?_, applyLine_of_ignored types d s hignored⟩,
    hdoes.error_iff_malformed, fun hanswers => ⟨?_, fun hmalformed => ?_⟩, hdoes.length_calls_le,
    hdoes.mem_calls_iff, fun _ => Line.Consults.not_malformed, hdoes.error_iff_answer⟩
  · simp only [calls, lineCalls, applyLine_of_ignored _ d _ hignored]
  · rintro ⟨e, herror, hmalformed⟩
    by_cases hcalls : calls = []
    · exact ((hdoes.error_iff_malformed e).mp ⟨herror, hcalls⟩).1
    · obtain ⟨call, hcall, hanswer⟩ := (hdoes.error_iff_answer e).mp ⟨herror, hcalls⟩
      exact absurd hmalformed (hanswers call hcall e hanswer)
  · exact ⟨_, ((hdoes.error_iff_malformed _).mpr ⟨hmalformed, rfl⟩).1, rfl⟩

/-- A lookup that finds a model without properties in the package it is asked from. -/
def bareModel : Lookup Unit := fun type package =>
  return .model { id := package ++ "." ++ type } []

def itemDraft : Draft :=
  { package := "shop"
    models := [{ id := "shop.Item" }]
    operation :=
      { parameters := [{ location := "body", name := "item", description := "the item",
                         dataType := "shop.Item", type := "shop.Item", required := true }] } }

theorem applyLine_grammar_item :
    let line := "@Param item body Item required \"the item\""
    itemDraft ≠ start "shop" ∧
      Does (fun type => (bareModel type "shop" ()).1) (start "shop") line (.ok ()) itemDraft
        [⟨"Item", "shop", .ok (.model { id := "shop.Item" } [])⟩] ∧
      Line.Consults line "Item" := by
  intro line
  have hran : (applyLine bareModel (start "shop") line ()).1 = (.ok (), itemDraft) := by
    decide +kernel
  have hcalls : lineCalls bareModel (start "shop") line () =
      [⟨"Item", "shop", .ok (.model { id := "shop.Item" } [])⟩] := by
    decide +kernel
  obtain ⟨hdoes, -, -, -, -, -, hasked, -, -⟩ :=
    applyLine_grammar bareModel (start "shop") line ()
  rw [hran, hcalls] at hdoes
  rw [hcalls] at hasked
  exact ⟨by decide, hdoes, ((hasked _).mp (List.mem_singleton_self _)).1⟩

end Draft

end ApiScribe
