import ApiScribe.Proofs.Operation.Lookups

/-!
# What lines add up to

A draft that has been given lines one by one, going on after errors (`applyEach`), has an account of
them in its fields: `record` is the list of the lines with their results and lookups, and `Account`
says what each field is in terms of it.  The models and the content types are made unique after
every directive, and the fields say the same as if it were done once, at the end.

One line keeps the account (`Account.line`), in two cases: it adds nothing (`Account.idle`), or it is
a directive that is performed (`Account.performed`).  What one line keeps, a run keeps
(`holds_applyEach`).
-/

namespace ApiScribe

/-! ### What a directive adds -/

namespace Directive

def parameters (found : Option Resolved) : Directive → List Parameter
  | .parameter name location type required text =>
    [{ location, name, description := text, dataType := (Draft.refOf type found).name,
       type := (Draft.refOf type found).name, required }]
  | _ => []

def responses (found : Option Resolved) : Directive → List ResponseMessage
  | .response code _ type message =>
    [{ code, message,
       responseModel := if code = 200 then (Draft.refOf type found).modelId else "" }]
  | _ => []

def consumed : Directive → List String
  | .contentTypes consumed _ names => if consumed then names else []
  | _ => []

def produced : Directive → List String
  | .contentTypes _ produced names => if produced then names else []
  | _ => []

theorem names_none_of_asked {directive : Directive} {type : String}
    (h : directive.asked? = some type) : directive.consumed = [] ∧ directive.produced = [] := by
  cases directive with
  | contentTypes => cases h
  | _ => exact ⟨rfl, rfl⟩

theorem method_ne_nil (words : List (List Char)) : method words ≠ [] := by
  unfold method
  split
  · dsimp only
    split
    · decide
    · rename_i hname
      simpa using hname
  · decide

end Directive

namespace Draft

variable (op : Operation) (found : Option Resolved) (directive : Directive)

theorem performedOn_response (code : Int32) (marker type message : String) :
    ∃ resultType items, performedOn op found (.response code marker type message) =
      { op with
        type := resultType
        items := items
        responseMessages := op.responseMessages ++
          (Directive.response code marker type message).responses found } := by
  unfold performedOn withResult Directive.responses
  by_cases hcode : code = 200
  · simp only [if_pos hcode]
    split <;> exact ⟨_, _, rfl⟩
  · simp only [if_neg hcode]
    exact ⟨_, _, rfl⟩

/-- A directive adds to the four lists, and only adds. -/
theorem performedOn_adds :
    (performedOn op found directive).parameters = op.parameters ++ directive.parameters found ∧
      (performedOn op found directive).responseMessages =
        op.responseMessages ++ directive.responses found ∧
      (performedOn op found directive).consumes = directive.consumed.foldl pushNew op.consumes ∧
      (performedOn op found directive).produces = directive.produced.foldl pushNew op.produces := by
  cases directive with
  | response code marker type message =>
    obtain ⟨_, _, h⟩ := performedOn_response op found code marker type message
    rw [h]
    exact ⟨(List.append_nil _).symm, rfl, rfl, rfl⟩
  | contentTypes consumed produced names =>
    refine ⟨(List.append_nil _).symm, (List.append_nil _).symm, ?_, ?_⟩
    · cases consumed <;> rfl
    · cases produced <;> rfl
  | parameter => exact ⟨rfl, (List.append_nil _).symm, rfl, rfl⟩
  | _ => exact ⟨(List.append_nil _).symm, (List.append_nil _).symm, rfl, rfl⟩

/-- A path is set together with a method. -/
theorem performedOn_route : (∃ path method, directive = .route path method) ∨
    ((performedOn op found directive).path = op.path ∧
      (performedOn op found directive).httpMethod = op.httpMethod) := by
  cases directive with
  | route path method => exact Or.inl ⟨path, method, rfl⟩
  | response code marker type message =>
    obtain ⟨_, _, h⟩ := performedOn_response op found code marker type message
    rw [h]
    exact Or.inr ⟨rfl, rfl⟩
  | _ => exact Or.inr ⟨rfl, rfl⟩

end Draft

/-! ### What a line adds -/

namespace Line

def consumed (line : String) : List String :=
  if tag line = "@Accept" ∨ tag line = "@Consume" then contentTypes line else []

def produced (line : String) : List String :=
  if tag line = "@Accept" ∨ tag line = "@Produce" then contentTypes line else []

def IsParameter (line : String) : Prop := tag line = "@Param"

def IsResponse (line : String) : Prop := tag line = "@Success" ∨ tag line = "@Failure"

instance (line : String) : Decidable (IsParameter line) := by unfold IsParameter; infer_instance

instance (line : String) : Decidable (IsResponse line) := by unfold IsResponse; infer_instance

variable {line : String}

theorem adds_nothing (h : tag line ∉ tags) :
    consumed line = [] ∧ produced line = [] ∧ ¬ IsParameter line ∧ ¬ IsResponse line := by
  have hne : ∀ name ∈ tags, tag line ≠ name := fun name hname heq => h (heq ▸ hname)
  simp [consumed, produced, IsParameter, IsResponse,
    hne "@Accept" (by decide), hne "@Consume" (by decide), hne "@Produce" (by decide),
    hne "@Param" (by decide), hne "@Success" (by decide), hne "@Failure" (by decide)]

/-- What a directive adds can be told from its tag. -/
theorem Says.adds {directive : Directive} (h : Says line directive) (found : Option Resolved) :
    directive.consumed = consumed line ∧ directive.produced = produced line ∧
      (directive.parameters found).length = (if IsParameter line then 1 else 0) ∧
      (directive.responses found).length = if IsResponse line then 1 else 0 := by
  unfold consumed produced IsParameter IsResponse
  cases h with
  | contentTypes htag _ =>
    simp only [contentTags, List.mem_cons, Prod.mk.injEq, List.not_mem_nil, or_false] at htag
    rcases htag with ⟨htag, rfl, rfl⟩ | ⟨htag, rfl, rfl⟩ | ⟨htag, rfl, rfl⟩ <;>
      simp [htag, Directive.consumed, Directive.produced, Directive.parameters, Directive.responses]
  | other _ htag =>
    obtain ⟨hconsumed, hproduced, hparameter, hresponse⟩ := adds_nothing htag
    exact ⟨hconsumed.symm, hproduced.symm, (if_neg hparameter).symm, (if_neg hresponse).symm⟩
  | route htag _ =>
    rcases htag with htag | htag <;>
      simp [htag, Directive.consumed, Directive.produced, Directive.parameters, Directive.responses]
  | response htag _ _ =>
    rcases htag with htag | htag <;>
      simp [htag, Directive.consumed, Directive.produced, Directive.parameters, Directive.responses]
  | title htag | description htag | notes htag | resource htag _ | parameter htag _ =>
    simp [htag, Directive.consumed, Directive.produced, Directive.parameters, Directive.responses]

theorem contentTypes_of_malformed (h : Malformed line)
    (htag : tag line = "@Accept" ∨ tag line = "@Consume" ∨ tag line = "@Produce") :
    contentTypes line = [] := by
  have hblank : ∀ item ∈ items line, ∀ c ∈ item, Text.isBlank c := by
    cases h with
    | contentTypes _ hblank => exact hblank
    | route htag' _ => rcases htag with h | h | h <;> simp [h] at htag'
    | response htag' _ => rcases htag with h | h | h <;> simp [h] at htag'
    | resource htag' _ | parameter htag' _ => rcases htag with h | h | h <;> simp [h] at htag'
  rw [← filterMap_tokens, tokens_eq_nil_iff.mpr hblank]
  rfl

theorem Malformed.names_none (h : Malformed line) : consumed line = [] ∧ produced line = [] := by
  unfold Line.consumed Line.produced
  constructor
  · split
    · exact contentTypes_of_malformed h (Or.imp_right Or.inl ‹_›)
    · rfl
  · split
    · exact contentTypes_of_malformed h (Or.imp_right Or.inr ‹_›)
    · rfl

/-- A path that is set is not empty, nor is the method. -/
theorem Says.route_ne {path method : String} (h : Says line (.route path method)) :
    path ≠ "" ∧ method ≠ "" := by
  cases h with
  | @route path more htag hwords =>
    have hpath : path ∈ words line := by
      rw [hwords]
      exact List.mem_cons_self
    exact ⟨by simpa using Text.ne_nil_of_mem_words hpath,
      by simpa using Directive.method_ne_nil more⟩

end Line

/-! ### Lines with their lookups -/

/-- The models that a lookup brings: the model found, followed by those it refers to. -/
def Call.models (call : Call) : List Model :=
  match call.answer with
  | .ok (.model model inner) => model :: inner
  | _ => []

/-- A line that has been applied, with its result and its lookups. -/
structure Applied where
  line : String
  result : Except Error Unit
  calls : List Call

namespace Applied

def models (e : Applied) : List Model := e.calls.flatMap Call.models

/-- The answer that the line has got, if it has looked a type up. -/
def found (e : Applied) : Option Resolved := e.calls.head?.bind (·.answer.toOption)

def IsParameter (e : Applied) : Prop := e.result.isOk ∧ Line.IsParameter e.line

def IsResponse (e : Applied) : Prop := e.result.isOk ∧ Line.IsResponse e.line

instance (e : Applied) : Decidable e.IsParameter := by unfold IsParameter; infer_instance

instance (e : Applied) : Decidable e.IsResponse := by unfold IsResponse; infer_instance

/-- The parameter is the one that the line describes. -/
def Describes (e : Applied) (p : Parameter) : Prop :=
  ∃ directive, Line.Says e.line directive ∧ directive.parameters e.found = [p]

/-- The answer is the one that the line announces. -/
def Announces (e : Applied) (r : ResponseMessage) : Prop :=
  ∃ directive, Line.Says e.line directive ∧ directive.responses e.found = [r]

end Applied

namespace Draft

section

variable {σ : Type} (types : Lookup σ)

/-- Gives a draft lines one by one, going on after errors. -/
def applyEach (d : Draft) : List String → StateM σ Draft
  | [] => return d
  | line :: lines => do
    let (_, d') ← applyLine types d line
    applyEach d' lines

/-- The lines that a draft is given, with the result and the lookups of each. -/
def record (d : Draft) (s : σ) : List String → List Applied
  | [] => []
  | line :: lines =>
    let ((result, d'), s') := applyLine types d line s
    { line, result, calls := lineCalls types d line s } :: record d' s' lines

end

/-- What the fields of a draft are, in terms of the lines that it has been given. -/
structure Account (d : Draft) (es : List Applied) : Prop where
  /-- The first of each id among the models of all lookups, in their order. -/
  models : d.models = firsts (·.id) (es.flatMap (·.models))
  /-- The content types of all lines, each where it is named first. -/
  consumes : d.operation.consumes = firsts id (es.flatMap (Line.consumed ·.line))
  produces : d.operation.produces = firsts id (es.flatMap (Line.produced ·.line))
  /-- One parameter for each line that has succeeded in adding one. -/
  parameters : List.Forall₂ Applied.Describes (es.filter (·.IsParameter)) d.operation.parameters
  /-- One answer for each line that has succeeded in adding one. -/
  responses : List.Forall₂ Applied.Announces (es.filter (·.IsResponse)) d.operation.responseMessages
  /-- The path and the method are set together. -/
  route : d.operation.path = "" ↔ d.operation.httpMethod = ""

theorem account_start (package : String) : Account (start package) [] where
  models := rfl
  consumes := rfl
  produces := rfl
  parameters := .nil
  responses := .nil
  route := Iff.rfl

/-! ### Lines keep the account -/

section

variable {d d' : Draft} {es : List Applied} {e : Applied}

theorem Account.idle (h : Account d es) (hmodels : e.models = [])
    (hconsumed : Line.consumed e.line = []) (hproduced : Line.produced e.line = [])
    (hparameter : ¬ e.IsParameter) (hresponse : ¬ e.IsResponse) : Account d (es ++ [e]) where
  models := by simpa [hmodels] using h.models
  consumes := by simpa [hconsumed] using h.consumes
  produces := by simpa [hproduced] using h.produces
  parameters := by simpa [hparameter] using h.parameters
  responses := by simpa [hresponse] using h.responses
  route := h.route

/-- The list of what some lines have added is extended by what a line adds. -/
theorem forall₂_filter_concat {α : Type} {R : Applied → α → Prop} {p : Applied → Prop}
    [DecidablePred p] {xs added : List α} (h : List.Forall₂ R (es.filter fun e => p e) xs)
    (hlength : added.length = if p e then 1 else 0) (hadded : ∀ x, added = [x] → R e x) :
    List.Forall₂ R ((es ++ [e]).filter fun e => p e) (xs ++ added) := by
  rw [List.filter_append]
  refine List.rel_append h ?_
  by_cases hp : p e
  · obtain ⟨x, rfl⟩ := List.length_eq_one_iff.mp (hlength.trans (if_pos hp))
    simpa [hp] using hadded x rfl
  · rw [List.length_eq_zero_iff.mp (hlength.trans (if_neg hp))]
    simp [hp]

theorem Account.performed {directive : Directive} (h : Account d es)
    (hsaid : Line.Says e.line directive) (hok : e.result = .ok ())
    (hmodels : e.models = modelsOf e.found) :
    Account (performed d e.found directive).distinct (es ++ [e]) := by
  obtain ⟨hconsumed, hproduced, hparameters, hresponses⟩ := hsaid.adds e.found
  obtain ⟨happended, hannounced, hconsumes, hproduces⟩ := performedOn_adds d.operation e.found directive
  have hparameter : e.IsParameter ↔ Line.IsParameter e.line := by
    simp [Applied.IsParameter, hok, Except.isOk, Except.toBool]
  have hresponse : e.IsResponse ↔ Line.IsResponse e.line := by
    simp [Applied.IsResponse, hok, Except.isOk, Except.toBool]
  constructor
  case models =>
    change Model.dedup (d.models ++ modelsOf e.found) = _
    rw [Model.dedup_eq, h.models, firsts_firsts_append, ← hmodels]
    simp
  case consumes =>
    change (performedOn d.operation e.found directive).consumes = _
    rw [hconsumes, h.consumes, foldl_pushNew_firsts, hconsumed]
    simp
  case produces =>
    change (performedOn d.operation e.found directive).produces = _
    rw [hproduces, h.produces, foldl_pushNew_firsts, hproduced]
    simp
  case parameters =>
    change List.Forall₂ _ _ (performedOn d.operation e.found directive).parameters
    rw [happended]
    exact forall₂_filter_concat h.parameters (by simp only [hparameters, hparameter])
      fun p hp => ⟨directive, hsaid, hp⟩
  case responses =>
    change List.Forall₂ _ _ (performedOn d.operation e.found directive).responseMessages
    rw [hannounced]
    exact forall₂_filter_concat h.responses (by simp only [hresponses, hresponse])
      fun r hr => ⟨directive, hsaid, hr⟩
  case route =>
    change (performedOn d.operation e.found directive).path = "" ↔
      (performedOn d.operation e.found directive).httpMethod = ""
    rcases performedOn_route d.operation e.found directive with
      ⟨path, method, rfl⟩ | ⟨hpath, hmethod⟩
    · obtain ⟨hpath, hmethod⟩ := hsaid.route_ne
      exact iff_of_false hpath hmethod
    · rw [hpath, hmethod]
      exact h.route

/-- **A line keeps the account.** -/
theorem Account.line {answers : String → Except Error Resolved} {line : String}
    {result : Except Error Unit} {calls : List Call} (h : Account d es)
    (hdoes : Does answers d line result d' calls) : Account d' (es ++ [⟨line, result, calls⟩]) := by
  cases hdoes with
  | plain hplain =>
    obtain ⟨hconsumed, hproduced, hparameter, hresponse⟩ :=
      Line.adds_nothing (mt Line.isTagged_of_mem_tags hplain)
    exact h.idle rfl hconsumed hproduced (fun h => hparameter h.2) fun h => hresponse h.2
  | malformed hmalformed =>
    obtain ⟨hconsumed, hproduced⟩ := hmalformed.names_none
    exact h.idle rfl hconsumed hproduced (fun h => nomatch h.1) fun h => nomatch h.1
  | failed hsaid hasked _ =>
    obtain ⟨hconsumed, hproduced, -⟩ := hsaid.adds none
    obtain ⟨hnone, hnone'⟩ := Directive.names_none_of_asked hasked
    exact h.idle rfl (hconsumed.symm.trans hnone) (hproduced.symm.trans hnone')
      (fun h => nomatch h.1) fun h => nomatch h.1
  | done hsaid _ => exact h.performed (e := ⟨line, .ok (), []⟩) hsaid rfl rfl
  | @found directive type found hsaid _ _ =>
    exact h.performed (e := ⟨line, .ok (), [⟨type, d.package, .ok found⟩]⟩) hsaid rfl
      (by cases found <;> simp [Applied.models, Call.models, Applied.found, modelsOf, Except.toOption])

end

/-! ### Runs -/

section

variable {σ : Type} {types : Lookup σ} {d d' : Draft} {s s' : σ} {line : String}
  {result : Except Error Unit} {calls : List Call}

theorem applyEach_cons (hrun : applyLine types d line s = ((result, d'), s')) (lines : List String) :
    applyEach types d (line :: lines) s = applyEach types d' lines s' := by
  rw [applyEach, stateM_bind, hrun]

theorem record_cons (hrun : applyLine types d line s = ((result, d'), s'))
    (hlogged : applyLine types.logged d line (s, []) = ((result, d'), (s', calls)))
    (lines : List String) : record types d s (line :: lines) =
      ⟨line, result, calls⟩ :: record types d' s' lines := by
  rw [record, hrun, lineCalls, hlogged]

/-- What each line keeps, a run keeps: a property of a draft and of the lines that it has been
given. -/
theorem holds_applyEach {P : Draft → List Applied → Prop}
    (hline : ∀ {answers : String → Except Error Resolved} {d d' : Draft} {es : List Applied}
      {line : String} {result : Except Error Unit} {calls : List Call},
      P d es → Does answers d line result d' calls → P d' (es ++ [⟨line, result, calls⟩]))
    {es : List Applied} (h : P d es) (types : Lookup σ) (lines : List String) (s : σ) :
    P (applyEach types d lines s).1 (es ++ record types d s lines) := by
  induction lines generalizing d es s with
  | nil =>
    rw [record, List.append_nil]
    exact h
  | cons line lines ih =>
    obtain ⟨result, d', s', calls, hrun, hlogged, hdoes⟩ := does_applyLine types d s line
    rw [applyEach_cons hrun, record_cons hrun (hlogged []), List.nil_append, ← List.singleton_append,
      ← List.append_assoc]
    exact ih (hline h hdoes) s'

theorem Account.applyEach {es : List Applied} (h : Account d es) (types : Lookup σ)
    (lines : List String) (s : σ) :
    Account (applyEach types d lines s).1 (es ++ record types d s lines) :=
  holds_applyEach (fun h hdoes => h.line hdoes) h types lines s

/-- The log of a run is made up of the lookups of its lines. -/
theorem applyEach_logged (types : Lookup σ) (d : Draft) (lines : List String) (s : σ)
    (log : List Call) : applyEach types.logged d lines (s, log) =
      ((applyEach types d lines s).1,
        ((applyEach types d lines s).2, log ++ (record types d s lines).flatMap (·.calls))) := by
  induction lines generalizing d s log with
  | nil =>
    rw [record, List.flatMap_nil, List.append_nil]
    rfl
  | cons line lines ih =>
    obtain ⟨result, d', s', calls, hrun, hlogged, -⟩ := does_applyLine types d s line
    rw [applyEach_cons hrun, applyEach_cons (hlogged log), record_cons hrun (hlogged []), ih,
      List.flatMap_cons, List.nil_append, List.append_assoc]

theorem record_lines (types : Lookup σ) (d : Draft) (lines : List String) (s : σ) :
    (record types d s lines).map (·.line) = lines := by
  induction lines generalizing d s with
  | nil => rfl
  | cons line lines ih =>
    obtain ⟨result, d', s', calls, hrun, hlogged, -⟩ := does_applyLine types d s line
    rw [record_cons hrun (hlogged []), List.map_cons, ih]

/-- **The fields of a draft account for the lines that it has been given**, whatever of them have
failed. -/
theorem account_applyEach (types : Lookup σ) (package : String) (lines : List String) (s : σ) :
    let applied := record types (start package) s lines
    applied.map (·.line) = lines ∧
      applied.flatMap (·.calls) = (applyEach types.logged (start package) lines (s, [])).2.2 ∧
      Account (applyEach types (start package) lines s).1 applied := by
  refine ⟨record_lines types _ lines s, ?_, ?_⟩
  · rw [applyEach_logged, List.nil_append]
  · simpa using (account_start package).applyEach types lines s

end

end Draft

end ApiScribe
