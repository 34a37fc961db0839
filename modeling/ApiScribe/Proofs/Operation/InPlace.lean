import ApiScribe.Operation.InPlace
import ApiScribe.Proofs.Operation.References

/-!
# Directives in place

A line that is applied in place, assignment by assignment, does what `Draft.applyLine` says of the
draft as a whole (`line_eq`): each form of a directive has read all its words and looked its type up
before its first assignment (`Performs`).  So a line that fails leaves nothing behind
(`line_failed`).
-/

namespace ApiScribe.InPlace

open Draft (TypeRef)

variable {σ α β : Type} {types : Lookup σ} {text : String} {d : Draft} {s : σ}

/-! ### Runs -/

theorem change_bind (f : Draft → Draft) (k : Unit → InPlace σ β) :
    (change f >>= k) (d, s) = k () (f d, s) := rfl

theorem pure_apply (a : α) : (pure a : InPlace σ α) (d, s) = (.ok a, (d, s)) := rfl

/-- A draft as a whole, together with a value: it takes the place of `d`, or `d` stays. -/
def placed (d : Draft) : Except Error (α × Draft) × σ → Except Error α × (Draft × σ)
  | (.ok (a, d'), s) => (.ok a, (d', s))
  | (.error e, s) => (.error e, (d, s))

/-- A draft as a whole takes the place of `d`, or `d` stays. -/
def replaced (d : Draft) : Except Error Draft × σ → Except Error Unit × (Draft × σ)
  | (.ok d', s) => (.ok (), (d', s))
  | (.error e, s) => (.error e, (d, s))

theorem placed_bind {x : InPlace σ α} {y : ExceptT Error (StateM σ) (α × Draft)}
    (hx : x (d, s) = placed d (y s)) {k : α → InPlace σ Unit} (f : α → Draft → Draft)
    (hk : ∀ a d' s', k a (d', s') = (.ok (), (f a d', s'))) :
    (x >>= k) (d, s) = replaced d ((y >>= fun found => pure (f found.1 found.2)) s) := by
  rcases hy : y s with ⟨e | ⟨a, d'⟩, s'⟩
  · rw [hy] at hx
    rw [exceptT_bind_error hx, exceptT_bind_error hy]
    rfl
  · rw [hy] at hx
    rw [exceptT_bind_ok hx, exceptT_bind_ok hy, hk]
    rfl

theorem ask_bind (type : String) (k : Resolved → InPlace σ β) :
    (ask types type >>= k) (d, s) = match types type d.package s with
      | (.ok found, s') => k found (d, s')
      | (.error e, s') => (.error e, (d, s')) := by
  rcases h : types type d.package s with ⟨e | found, s'⟩
  · have hask : ask types type (d, s) = (.error e, (d, s')) := by rw [ask, h]
    exact exceptT_bind_error hask
  · have hask : ask types type (d, s) = (.ok found, (d, s')) := by rw [ask, h]
    exact exceptT_bind_ok hask

theorem registerType_eq (type : String) :
    registerType types type (d, s) = placed d (Draft.registerType types d type s) := by
  unfold registerType Draft.registerType
  split
  · rfl
  · rw [ask_bind]
    rcases h : types type d.package s with ⟨e | (name | ⟨model, inner⟩), s'⟩
    · rw [exceptT_bind_error h]
      rfl
    · rw [exceptT_bind_ok h]
      rfl
    · rw [exceptT_bind_ok h]
      simp only [change_bind, pure_apply, List.append_assoc, List.singleton_append]
      rfl

/-! ### The forms of a directive -/

/-- In place, a form refuses the line without any change, or does what the directive that it reads
does to the draft as a whole. -/
def Performs (types : Lookup σ) (text : String) (x : InPlace σ Unit)
    (reading : Except String Directive) : Prop :=
  ∀ d s, x (d, s) = match reading with
    | .ok directive => replaced d (Draft.applyRaw types d directive s)
    | .error reason => (.error (.malformedDirective text reason), (d, s))

theorem refuse_performs (reason : String) :
    Performs types text (refuse text reason) (.error reason) := fun _ _ => rfl

theorem route_performs (rest : List Char) :
    Performs types text (route text rest) (Directive.readRoute rest) := by
  unfold route Directive.readRoute
  cases (Text.leadingWords 2 rest).1 with
  | nil => exact refuse_performs _
  | cons path more => exact fun _ _ => rfl

theorem resource_performs (rest : List Char) :
    Performs types text (resource text rest) (Directive.readResource rest) := by
  unfold resource Directive.readResource
  cases rest.dropWhile (· == '/') with
  | nil => exact refuse_performs _
  | cons c cs => exact fun _ _ => rfl

theorem parameter_performs (rest : List Char) :
    Performs types text (parameter types text rest) (Directive.readParameter rest) := by
  unfold parameter Directive.readParameter
  rcases Text.leadingWords 4 rest with
    ⟨_ | ⟨name, _ | ⟨location, _ | ⟨type, _ | ⟨flag, _ | ⟨_, _⟩⟩⟩⟩⟩, remainder⟩
  case cons.cons.cons.cons.nil =>
    let added (ref : TypeRef) (d : Draft) : Draft :=
      { d with operation.parameters := d.operation.parameters ++
        [{ location := String.ofList location, name := String.ofList name,
           description := String.ofList (Directive.unquote remainder), dataType := ref.name,
           type := ref.name, required := Directive.isRequiredFlag flag }] }
    exact fun d s => placed_bind (registerType_eq _) added fun _ _ _ => rfl
  all_goals exact refuse_performs _

/-- One content type after the other, all are added. -/
theorem addContentTypes_apply (consumed produced : Bool) (tokens : List (List Char)) :
    addContentTypes consumed produced tokens (d, s) =
      replaced d (Draft.applyRaw types d (.contentTypes consumed produced
        (tokens.filterMap fun token => Directive.contentType? (String.ofList token))) s) := by
  induction tokens generalizing d with
  | nil => cases consumed <;> cases produced <;> rfl
  | cons token tokens ih =>
    unfold addContentTypes
    rw [List.filterMap_cons]
    cases Directive.contentType? (String.ofList token) with
    | none => exact ih
    | some name => cases consumed <;> cases produced <;> exact ih

theorem contentTypes_performs (consumed produced : Bool) (rest : List Char) :
    Performs types text (contentTypes text consumed produced rest)
      (Directive.readContentTypes consumed produced rest) := by
  unfold contentTypes Directive.readContentTypes
  generalize ((Text.pieces (· == ',') rest).map Text.trim).filter (fun token => !token.isEmpty) = ts
  cases ts with
  | nil => exact refuse_performs _
  | cons token tokens => exact fun _ _ => addContentTypes_apply consumed produced _

theorem setResult_bind (marker : String) (ref : TypeRef) (k : Unit → InPlace σ β) :
    (setResult marker ref >>= k) (d, s) =
      k () ({ d with operation := Draft.withResult d.operation marker ref }, s) := by
  unfold setResult Draft.withResult
  split <;> rfl

theorem addResponse_eq (code : Int32) (marker type message : String) :
    addResponse types code marker type message (d, s) =
      replaced d (Draft.addResponse types d code marker type message s) := by
  unfold addResponse Draft.addResponse
  by_cases hcode : code = 200
  · rw [if_pos hcode, if_neg (not_not_intro hcode)]
    by_cases hmodel : marker = "\x7bobject\x7d" ∨ marker = "\x7barray\x7d"
    · rw [if_pos hmodel, if_pos hmodel]
      let added (ref : TypeRef) (d : Draft) : Draft :=
        { d with operation := { Draft.withResult d.operation marker ref with
          responseMessages := (Draft.withResult d.operation marker ref).responseMessages ++
            [{ code, message, responseModel := ref.modelId }] } }
      exact placed_bind (registerType_eq type) added fun ref _ _ => setResult_bind marker ref _
    · rw [if_neg hmodel, if_neg hmodel]
      exact setResult_bind marker (.primitive type) _
  · rw [if_neg hcode, if_pos hcode]
    rfl

theorem response_performs (rest : List Char) :
    Performs types text (response types text rest) (Directive.readResponse rest) := by
  unfold response Directive.readResponse
  rcases Text.leadingWords 3 rest with ⟨_ | ⟨code, more⟩, remainder⟩
  · exact refuse_performs _
  · dsimp only
    cases Text.readInt32? code with
    | none => exact refuse_performs _
    | some n =>
      rcases more with _ | ⟨marker, _ | ⟨type, _ | ⟨_, _⟩⟩⟩
      case cons.cons.nil => exact fun _ _ => addResponse_eq n _ _ _
      all_goals exact refuse_performs _

theorem tagged_performs (tag : String) (rest : List Char) :
    Performs types text (tagged types text tag rest) (Directive.readTagged tag rest) := by
  unfold tagged
  split
  case h_13 =>
    have hother : Directive.readTagged tag rest = .ok (.other tag) := by
      unfold Directive.readTagged
      split
      case h_13 => rfl
      all_goals contradiction
    rw [hother]
    exact fun _ _ => rfl
  · exact route_performs rest
  · exact route_performs rest
  · exact fun _ _ => rfl
  · exact fun _ _ => rfl
  · exact fun _ _ => rfl
  · exact resource_performs rest
  · exact parameter_performs rest
  · exact contentTypes_performs true true rest
  · exact contentTypes_performs true false rest
  · exact contentTypes_performs false true rest
  · exact response_performs rest
  · exact response_performs rest

/-! ### Lines -/

/-- **In place, a line does what it does to the draft as a whole.** -/
theorem line_eq (types : Lookup σ) (text : String) (d : Draft) (s : σ) :
    line types text (d, s) =
      (((Draft.applyLine types d text s).1.1),
        ((Draft.applyLine types d text s).1.2, (Draft.applyLine types d text s).2)) := by
  rw [Draft.applyLine_apply]
  unfold line Directive.read?
  dsimp only
  cases Directive.split? (Text.trim text.toList) with
  | none => rfl
  | some found =>
    obtain ⟨tag, rest⟩ := found
    have hform : Performs types (String.ofList (Text.trim text.toList)) _ _ :=
      tagged_performs (String.ofList tag) rest
    specialize hform d s
    dsimp only
    cases hread : Directive.readTagged (String.ofList tag) rest with
    | error reason =>
      rw [hread] at hform
      exact exceptT_bind_error hform
    | ok directive =>
      rw [hread] at hform
      dsimp only at hform ⊢
      rcases hraw : Draft.applyRaw types d directive s with ⟨e | d', s'⟩
      · rw [hraw] at hform
        exact exceptT_bind_error hform
      · rw [hraw] at hform
        exact exceptT_bind_ok hform

/-- **A line that fails changes nothing**: applied in place or to the draft as a whole, it leaves
every field as it was, whatever the draft and whatever the lookup answers. -/
theorem line_failed (types : Lookup σ) (text : String) (d : Draft) (s : σ) {e : Error}
    (h : (line types text (d, s)).1 = .error e) :
    (line types text (d, s)).2.1 = d ∧ (Draft.applyLine types d text s).1 = (.error e, d) := by
  rw [line_eq] at h ⊢
  rcases hrun : Draft.applyLine types d text s with ⟨⟨result, d'⟩, s'⟩
  rw [hrun] at h
  cases h
  obtain rfl := Draft.applyLine_error hrun
  exact ⟨rfl, rfl⟩

/-- A lookup that finds nothing and counts what it is asked. -/
def nothingFound : Lookup Nat := fun type package => do
  modify (· + 1)
  throw (.modelNotFound type package)

def orderDraft : Draft where
  operation := { httpMethod := "GET", path := "/orders", consumes := ["application/json"] }
  models := [{ id := "shop.Order" }, { id := "shop.Order" }]
  resource := some "orders"
  package := "shop"

/-- Not even the models are made unique where the type of the answer is not found. -/
theorem line_failed_basket :
    (line nothingFound "@Success 200 \x7barray\x7d Basket" (orderDraft, 0)).1 =
        .error (.modelNotFound "Basket" "shop") ∧
      (line nothingFound "@Success 200 \x7barray\x7d Basket" (orderDraft, 0)).2.1 = orderDraft ∧
      (Draft.applyLine nothingFound orderDraft "@Success 200 \x7barray\x7d Basket" 0).1 =
        (.error (.modelNotFound "Basket" "shop"), orderDraft) := by
  have hfails : (line nothingFound "@Success 200 \x7barray\x7d Basket" (orderDraft, 0)).1 =
      .error (.modelNotFound "Basket" "shop") := by
    decide +kernel
  exact ⟨hfails, line_failed _ _ _ _ hfails⟩

end ApiScribe.InPlace
