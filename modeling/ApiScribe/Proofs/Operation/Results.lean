import ApiScribe.Proofs.Document.RoundTrip
import ApiScribe.Proofs.Operation.Account

/-!
# What an operation returns

The type and the items of an operation are set together, by the lines that announce an answer with
code 200, and each of them takes the place of what was set before.

* `Applied.Returns` — a line has given the operation its result, with a marker and a type;
* `HasResult` — the type and the items of an operation are those of a result;
* `result_applyEach` — an operation has items just if the last result that it has been given is marked
  as an array, and its type is then `array`.  The type of another result may have that name, too.
-/

namespace ApiScribe

open Draft

/-- The result that a directive gives an operation: its marker, and what its type refers to. -/
def Directive.result? (found : Option Resolved) : Directive → Option (String × TypeRef)
  | .response code marker type _ => if code = 200 then some (marker, refOf type found) else none
  | _ => none

namespace Applied

/-- The result that the line has given the operation. -/
def result? (e : Applied) : Option (String × TypeRef) :=
  match e.result, Directive.read? e.line with
  | .ok (), .ok (some directive) => directive.result? e.found
  | _, _ => none

/-- The line has given the operation its result: it has succeeded, and it is an answer with code 200,
a marker and a type. -/
def Returns (e : Applied) (marker : String) (ref : TypeRef) : Prop :=
  e.result = .ok () ∧ (Line.tag e.line = "@Success" ∨ Line.tag e.line = "@Failure") ∧
    ∃ code word type more, Line.words e.line = code :: word :: type :: more ∧
      Text.Signed code 200 ∧ marker = String.ofList word ∧ ref = refOf (String.ofList type) e.found

theorem result?_of_directive {e : Applied} {directive : Directive} (hok : e.result = .ok ())
    (h : Line.Says e.line directive) : e.result? = directive.result? e.found := by
  unfold result?
  rw [hok, h.read?]

/-- A line that has failed, or is no directive, gives no result. -/
theorem result?_eq_none {e : Applied}
    (h : e.result ≠ .ok () ∨ ¬ Line.IsTagged e.line) : e.result? = none := by
  unfold result?
  split
  · rename_i hok hread
    rcases h with h | h
    · exact absurd hok h
    · exact absurd (Line.read?_eq_some_iff.mp hread).isTagged h
  · rfl

/-- **A line gives a result if it has succeeded and announces the result.** -/
theorem result?_eq_some_iff {e : Applied} {marker : String} {ref : TypeRef} :
    e.result? = some (marker, ref) ↔ e.Returns marker ref := by
  constructor
  · intro h
    unfold result? at h
    split at h
    · rename_i directive hok hread
      refine ⟨hok, ?_⟩
      cases Line.read?_eq_some_iff.mp hread with
      | response htag hwords hcode =>
        obtain ⟨hn, hsome⟩ := Option.ite_none_right_eq_some.mp h
        cases hsome
        exact ⟨htag, _, _, _, _, hwords, by simpa [hn] using hcode, rfl, rfl⟩
      | route | title | description | notes | resource | parameter | contentTypes | other => cases h
    · cases h
  · rintro ⟨hok, htag, code, word, type, more, hwords, hcode, rfl, rfl⟩
    rw [result?_of_directive hok (.response (n := 200) htag hwords hcode)]
    rfl

end Applied

namespace Draft

abbrev arrayMarker : String := "\x7barray\x7d"

/-- The type and the items of an operation are those of the result that it has been given; before the
first one they are empty. -/
inductive HasResult (op : Operation) : Option (String × TypeRef) → Prop
  | start (htype : op.type = "") (hitems : op.items = none) : HasResult op none
  | array {ref : TypeRef} (htype : op.type = "array") (hitems : op.items = some ref.items) :
      HasResult op (some (arrayMarker, ref))
  | single {marker : String} {ref : TypeRef} (hmarker : marker ≠ arrayMarker)
      (htype : op.type = ref.name) (hitems : op.items = none) : HasResult op (some (marker, ref))

theorem hasResult_withResult (op : Operation) (marker : String) (ref : TypeRef)
    (messages : List ResponseMessage) :
    HasResult { withResult op marker ref with responseMessages := messages } (some (marker, ref)) := by
  unfold withResult
  by_cases hmarker : marker = arrayMarker
  · simp only [if_pos hmarker]
    exact hmarker ▸ .array rfl rfl
  · simp only [if_neg hmarker]
    exact .single hmarker rfl rfl

/-! ### Lines -/

variable {op : Operation} {last? : Option (String × TypeRef)}

/-- A directive gives its own result, or leaves that which is there. -/
theorem HasResult.performedOn (h : HasResult op last?) (found : Option Resolved)
    (directive : Directive) :
    HasResult (performedOn op found directive) ((directive.result? found).or last?) := by
  have kept : ∀ {op' : Operation}, op'.type = op.type → op'.items = op.items →
      HasResult op' last? := by
    intro op' htype hitems
    cases h with
    | start ht hi => exact .start (htype.trans ht) (hitems.trans hi)
    | array ht hi => exact .array (htype.trans ht) (hitems.trans hi)
    | single hmarker ht hi => exact .single hmarker (htype.trans ht) (hitems.trans hi)
  cases directive with
  | response code marker type message =>
    by_cases hcode : code = 200
    · simp only [Draft.performedOn, Directive.result?, if_pos hcode, Option.some_or]
      exact hasResult_withResult ..
    · simp only [Draft.performedOn, Directive.result?, if_neg hcode, Option.none_or]
      exact kept rfl rfl
  | _ => exact kept rfl rfl

/-- The last of the results that some lines have given. -/
def lastResult? (es : List Applied) : Option (String × TypeRef) :=
  (es.filterMap Applied.result?).getLast?

theorem lastResult?_concat (es : List Applied) (e : Applied) :
    lastResult? (es ++ [e]) = e.result?.or (lastResult? es) := by
  unfold lastResult?
  rw [List.filterMap_append, List.getLast?_append]
  cases he : e.result? <;> simp [he]

/-- A line that gives no result and leaves the operation as it is. -/
theorem HasResult.idle {es : List Applied} {e : Applied} (h : HasResult op (lastResult? es))
    (he : e.result? = none) : HasResult op (lastResult? (es ++ [e])) := by
  rw [lastResult?_concat, he]
  exact h

/-- **A line keeps the last result.** -/
theorem HasResult.line {answers : String → Except Error Resolved} {d d' : Draft} {es : List Applied}
    {line : String} {result : Except Error Unit} {calls : List Call}
    (h : HasResult d.operation (lastResult? es)) (hdoes : Does answers d line result d' calls) :
    HasResult d'.operation (lastResult? (es ++ [⟨line, result, calls⟩])) := by
  cases hdoes with
  | plain hplain => exact h.idle (Applied.result?_eq_none (Or.inr hplain))
  | malformed => exact h.idle (Applied.result?_eq_none (Or.inl nofun))
  | failed => exact h.idle (Applied.result?_eq_none (Or.inl nofun))
  | done hsaid =>
    rw [lastResult?_concat, Applied.result?_of_directive rfl hsaid]
    exact h.performedOn none _
  | @found directive type found hsaid =>
    rw [lastResult?_concat, Applied.result?_of_directive rfl hsaid]
    exact h.performedOn (some found) directive

/-! ### Runs -/

theorem hasResult_applyEach {σ : Type} (types : Lookup σ) (package : String) (lines : List String)
    (s : σ) : HasResult (applyEach types (start package) lines s).1.operation
      (lastResult? (record types (start package) s lines)) := by
  have hstart : HasResult (start package).operation (lastResult? []) := .start rfl rfl
  have hrun := holds_applyEach (P := fun d es => HasResult d.operation (lastResult? es))
    (fun h hdoes => h.line hdoes) hstart types lines s
  rwa [List.nil_append] at hrun

theorem encode_result (op : Operation) : ∃ fields, op.encode = .fields fields ∧
    Node.field? fields "type" = some (.str op.type) ∧
    Node.field? fields "items" = op.items.map fun items => items.encode.toJson := by
  refine ⟨_, rfl, ?_, ?_⟩
  · simp [Node.toJson]
  · simp [Option.map_map, Function.comp_def]

theorem encode_items (items : Items) : ∃ key word, (key = "type" ∨ key = "$ref") ∧
    items.encode.toJson = .obj [(key, .str word)] := by
  cases items with
  | primitive name => exact ⟨"type", name, Or.inl rfl, rfl⟩
  | model id => exact ⟨"$ref", id, Or.inr rfl, rfl⟩

/-- **An operation has items just if its last result is marked as an array.**  A line gives a result
if it succeeds and has code 200.  After a result that is marked as an array, the type is `array` and
the items are what the type of the line refers to; they are written with one field, for a name or for
a model.  After any other result there are no items, and the type is `array` just if the type of the
line is spelled so or has been found to have that name. -/
theorem result_applyEach {σ : Type} (types : Lookup σ) (package : String) (lines : List String)
    (s : σ) :
    let applied := record types (start package) s lines
    let op := (applyEach types (start package) lines s).1.operation
    applied.map (·.line) = lines ∧
      (∀ (e : Applied) marker ref, e.result? = some (marker, ref) ↔ e.Returns marker ref) ∧
      (op.items.isSome ↔ ∃ ref, lastResult? applied = some (arrayMarker, ref)) ∧
      (∀ ref, lastResult? applied = some (arrayMarker, ref) →
        op.type = "array" ∧ op.items = some ref.items) ∧
      (op.type = "array" ∧ op.items = none ↔ ∃ marker ref,
        lastResult? applied = some (marker, ref) ∧ marker ≠ arrayMarker ∧ ref.name = "array") ∧
      ∃ fields, op.encode = .fields fields ∧
        Node.field? fields "type" = some (.str op.type) ∧
        Node.field? fields "items" = op.items.map (fun items => items.encode.toJson) ∧
        ∀ items : Items, ∃ key word, (key = "type" ∨ key = "$ref") ∧
          items.encode.toJson = .obj [(key, .str word)] := by
  intro applied op
  have hresult : HasResult op (lastResult? applied) := hasResult_applyEach types package lines s
  obtain ⟨fields, hfields, htype, hitems⟩ := encode_result op
  refine ⟨record_lines types _ lines s, fun _ _ _ => Applied.result?_eq_some_iff, ?_, ?_, ?_,
    fields, hfields, htype, hitems, encode_items⟩
  all_goals generalize lastResult? applied = last? at hresult
  · cases hresult with
    | start _ hitems => simp [hitems]
    | array _ hitems => simp [hitems]
    | single hmarker _ hitems => simp [hitems, hmarker]
  · rintro ref rfl
    cases hresult with
    | array htype hitems => exact ⟨htype, hitems⟩
    | single hmarker => exact absurd rfl hmarker
  · cases hresult with
    | start htype hitems => simp [htype]
    | array _ hitems => simp [hitems]
    | single hmarker htype hitems => simp [htype, hitems, hmarker]

/-- An operation may be of type `array` without items. -/
theorem array_without_items :
    ¬ ∀ (σ : Type) (types : Lookup σ) (package : String) (lines : List String) (s : σ),
      let op := (applyEach types (start package) lines s).1.operation
      op.items.isSome ↔ op.type = "array" := by
  intro h
  have hitems := (h Unit (fun _ _ => throw .noDirectives) "shop"
    ["@Success 200 \x7bstring\x7d array"] ()).mpr (by decide +kernel)
  exact absurd hitems (by decide +kernel)

end Draft

end ApiScribe
