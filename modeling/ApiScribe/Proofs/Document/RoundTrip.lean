import ApiScribe.Document.Decode
import ApiScribe.Document.Encode
import ApiScribe.Proofs.Json.RoundTrip

/-!
# Reading a document back

The JSON text of a document is read as what it shows of the document (`ofJsonText?_jsonText`): each
field that is left out is empty and comes back as the default of its reader (`readOr_kept`), and the
values of all fields are read back one by one.
-/

namespace ApiScribe

open Json

/-! ### Fields that are left out -/

namespace Node

mutual

theorem isWhole_toJson : ∀ n : Node, n.toJson.isWhole
  | text _ => rfl
  | int _ => rfl
  | flag _ => rfl
  | list ns => by rw [toJson, isWhole]; exact areWhole_toJsonList ns
  | fields es => by rw [toJson, isWhole]; exact areWholeMembers_toJsonFields es
  | variant _ _ => rfl

theorem areWhole_toJsonList : ∀ ns : List Node, areWhole (toJsonList ns)
  | [] => rfl
  | n :: ns => by
    rw [toJsonList, areWhole, Bool.and_eq_true]
    exact ⟨isWhole_toJson n, areWhole_toJsonList ns⟩

theorem areWholeMembers_toJsonFields :
    ∀ es : List (String × Node), areWholeMembers (toJsonFields es)
  | [] => rfl
  | (_, n) :: es => by
    rw [toJsonFields, areWholeMembers, Bool.and_eq_true]
    exact ⟨isWhole_toJson n, areWholeMembers_toJsonFields es⟩

end

theorem toJson_ne_null (n : Node) : n.toJson ≠ .null := by
  cases n <;> simp [toJson]

/-- The value of a field of a written record. -/
def field? (es : List (String × Node)) (name : String) : Option Json :=
  member? (toJsonFields es) name

/-- The value of a field that is left out when it is empty. -/
def kept (empty : Bool) (j : Json) : Option Json := if empty then none else some j

@[simp] theorem field?_nil (name : String) : field? [] name = none := rfl

@[simp] theorem field?_cons (k : String) (n : Node) (es : List (String × Node)) (name : String) :
    field? ((k, n) :: es) name =
      (field? es name).or (if k = name then some n.toJson else none) := by
  unfold field?
  rw [toJsonFields, member?]
  cases member? (toJsonFields es) name <;> rfl

@[simp] theorem field?_append (es fs : List (String × Node)) (name : String) :
    field? (es ++ fs) name = (field? fs name).or (field? es name) := by
  induction es with
  | nil => simp
  | cons e es ih =>
    obtain ⟨k, n⟩ := e
    rw [List.cons_append, field?_cons, field?_cons, ih, Option.or_assoc]

theorem field?_omit (empty : Bool) (k : String) (n : Node) (name : String) :
    field? (if empty then [] else [(k, n)]) name =
      if k = name then kept empty n.toJson else none := by
  cases empty <;> simp [kept]

@[simp] theorem field?_optText (k value name : String) :
    field? (optText k value) name = if k = name then kept value.isEmpty (.str value) else none :=
  field?_omit ..

@[simp] theorem field?_optList (k : String) (ns : List Node) (name : String) :
    field? (optList k ns) name =
      if k = name then kept ns.isEmpty (.arr (toJsonList ns)) else none :=
  field?_omit ..

@[simp] theorem field?_opt (k : String) (n : Option Node) (name : String) :
    field? (opt k n) name = if k = name then n.map toJson else none := by
  cases n <;> simp [opt]

end Node

open Node

namespace Json

/-! ### Reading fields -/

@[simp] theorem fields?_toJson (es : List (String × Node)) (arity : ℕ) :
    (fields es).toJson.fields? arity = some fun _ => field? es := rfl

/-- Reads a field that may be missing. -/
def readOr {α : Type} (missing : α) (read : Json → Option α) : Option Json → Option α
  | some j => read j
  | none => some missing

/-- **A field that is left out when it is empty is read back**, if what is missing is empty. -/
theorem readOr_kept {α : Type} {missing a : α} {read : Json → Option α} {empty : Bool} {j : Json}
    (hread : read j = some a) (hempty : empty → a = missing) :
    readOr missing read (kept empty j) = some a := by
  cases empty with
  | false => exact hread
  | true => exact congrArg some (hempty rfl).symm

/-- Reads a field that may be missing or null. -/
def readNullable {α : Type} (read : Json → Option α) : Option Json → Option (Option α)
  | some null | none => some none
  | some j => (read j).map some

section Fields

variable {α : Type} (f : Fields) (i : ℕ) (name : String)

@[simp] theorem required_eq (read : Json → Option α) :
    f.required i name read = (f i name).bind read := rfl

@[simp] theorem optional_eq (missing : α) (read : Json → Option α) :
    f.optional i name missing read = readOr missing read (f i name) := by
  unfold Fields.optional readOr
  cases f i name <;> rfl

@[simp] theorem nullable_eq (read : Json → Option α) :
    f.nullable i name read = readNullable read (f i name) := by
  unfold Fields.nullable readNullable
  rfl

end Fields

/-! ### The values of fields -/

@[simp] theorem text?_toJson (s : String) : text? (Node.text s).toJson = some s := rfl

@[simp] theorem flag?_toJson (b : Bool) : flag? (flag b).toJson = some b := rfl

@[simp] theorem int32?_toJson (n : Int32) : int32? (Node.int n.toInt).toJson = some n := by
  have hn : Int32.minValue.toInt ≤ n.toInt ∧ n.toInt ≤ Int32.maxValue.toInt :=
    ⟨n.minValue_le_toInt, n.toInt_le⟩
  show (if _ then _ else _) = _
  rw [if_pos hn, Int32.ofInt_toInt]

@[simp] theorem int64?_toJson (n : Int64) : int64? (Node.int n.toInt).toJson = some n := by
  have hn : Int64.minValue.toInt ≤ n.toInt ∧ n.toInt ≤ Int64.maxValue.toInt :=
    ⟨n.minValue_le_toInt, n.toInt_le⟩
  show (if _ then _ else _) = _
  rw [if_pos hn, Int64.ofInt_toInt]

section Readers

variable {α : Type} {read : Json → Option α} {encode : α → Node} {shown : α → α}

theorem list?_toJson (h : ∀ a, read (encode a).toJson = some (shown a)) (as : List α) :
    list? read (list (as.map encode)).toJson = some (as.map shown) := by
  show (toJsonList (as.map encode)).mapM read = _
  induction as with
  | nil => rfl
  | cons a as ih => simp [toJsonList, h, ih]

theorem keyMap?_toJson (h : ∀ a, read (encode a).toJson = some (shown a)) (m : KeyMap α) :
    keyMap? read (ofKeyMap encode m).toJson = some (m.map shown) := by
  have key : ∀ es : List (String × α),
      (toJsonFields (es.map fun (k, v) => (k, encode v))).mapM
        (fun e => (read e.2).map fun v => (e.1, v)) = some (es.map fun e => (e.1, shown e.2)) := by
    intro es
    induction es with
    | nil => rfl
    | cons e es ih => simp [toJsonFields, h, ih]
  show Option.map KeyMap.ofList _ = _
  rw [key m.entries]
  exact congrArg some (KeyMap.ofList_entries (m.map shown))

@[simp] theorem readOr_text (s : String) : readOr "" text? (kept s.isEmpty (.str s)) = some s :=
  readOr_kept rfl fun h => by simpa using h

theorem readOr_list (h : ∀ a, read (encode a).toJson = some (shown a)) (as : List α) :
    readOr [] (list? read) (kept as.isEmpty (.arr (toJsonList (as.map encode)))) =
      some (as.map shown) :=
  readOr_kept (list?_toJson h as) fun hempty => by simpa using hempty

@[simp] theorem list?_map (h : ∀ a, read (encode a).toJson = some a) (as : List α) :
    list? read (list (as.map encode)).toJson = some as := by
  simpa using list?_toJson h as

@[simp] theorem readOr_map (h : ∀ a, read (encode a).toJson = some a) (as : List α) :
    readOr [] (list? read) (kept as.isEmpty (.arr (toJsonList (as.map encode)))) = some as := by
  simpa using readOr_list h as

@[simp] theorem readOr_texts (ss : List String) :
    readOr [] (list? text?) (kept (texts ss).isEmpty (.arr (toJsonList (texts ss)))) = some ss := by
  have hempty : (texts ss).isEmpty = ss.isEmpty := by simp [texts]
  rw [hempty]
  exact readOr_map text?_toJson ss

@[simp] theorem keyMap?_ofKeyMap (h : ∀ a, read (encode a).toJson = some a) (m : KeyMap α) :
    keyMap? read (ofKeyMap encode m).toJson = some m := by
  rw [keyMap?_toJson h m]
  exact congrArg some (KeyMap.map_id m)

@[simp] theorem readNullable_map (h : ∀ a, read (encode a).toJson = some a) (a : Option α) :
    readNullable read (a.map (toJson ∘ encode)) = some a := by
  cases a with
  | none => rfl
  | some a =>
    have hread := h a
    have hnull := toJson_ne_null (encode a)
    show readNullable read (some (encode a).toJson) = _
    unfold readNullable
    split
    · rename_i heq
      exact absurd (Option.some.inj heq) hnull
    · rename_i heq
      cases heq
    · rename_i heq
      rw [← Option.some.inj heq, hread]
      rfl

end Readers

end Json

/-! ### Records -/

@[simp] theorem Items.decode?_encode (i : Items) : Items.decode? i.encode.toJson = some i := by
  cases i <;> rfl

@[simp] theorem Property.decode?_encode (p : Property) :
    Property.decode? p.encode.toJson = some p := by
  simp [Property.decode?, Property.encode]

@[simp] theorem Model.decode?_encode (m : Model) : Model.decode? m.encode.toJson = some m := by
  simp [Model.decode?, Model.encode]

@[simp] theorem Parameter.decode?_encode (p : Parameter) :
    Parameter.decode? p.encode.toJson = some p := by
  simp [Parameter.decode?, Parameter.encode]

@[simp] theorem ResponseMessage.decode?_encode (r : ResponseMessage) :
    ResponseMessage.decode? r.encode.toJson = some r := by
  simp [ResponseMessage.decode?, ResponseMessage.encode]

@[simp] theorem Operation.decode?_encode (op : Operation) :
    Operation.decode? op.encode.toJson = some op := by
  simp [Operation.decode?, Operation.encode]

@[simp] theorem ApiRef.decode?_encode (r : ApiRef) : ApiRef.decode? r.encode.toJson = some r := by
  simp [ApiRef.decode?, ApiRef.encode]

@[simp] theorem Info.decode?_encode (i : Info) : Info.decode? i.encode.toJson = some i := by
  simp [Info.decode?, Info.encode]

@[simp] theorem ResourceListing.decode?_encode (l : ResourceListing) :
    ResourceListing.decode? l.encode.toJson = some l := by
  simp [ResourceListing.decode?, ResourceListing.encode]

/-! ### What a document shows -/

/-- What the document shows of an operation. -/
def Draft.shown (d : Draft) : Draft := { operation := d.operation }

def Api.shown (a : Api) : Api := { a with operations := a.operations.map Draft.shown }

def ApiDeclaration.shown (d : ApiDeclaration) : ApiDeclaration :=
  { d with apis := d.apis.map Api.shown }

/-- The document with what it shows of its operations and nothing else. -/
def Document.shown (d : Document) : Document := { d with apis := d.apis.map ApiDeclaration.shown }

theorem Draft.decode?_encode (d : Draft) :
    Draft.decode? d.operation.encode.toJson = some d.shown := by
  simp [Draft.decode?, Draft.shown]

theorem Api.decode?_encode (a : Api) : Api.decode? a.encode.toJson = some a.shown := by
  simp [Api.decode?, Api.encode, readOr_list Draft.decode?_encode, Api.shown]

theorem readOr_models (m : KeyMap Model) :
    readOr ∅ (keyMap? Model.decode?) (kept m.isEmpty (ofKeyMap Model.encode m).toJson) = some m :=
  readOr_kept (keyMap?_ofKeyMap Model.decode?_encode m) fun hempty =>
    KeyMap.ext_entries (List.isEmpty_iff.mp hempty)

theorem ApiDeclaration.decode?_encode (d : ApiDeclaration) :
    ApiDeclaration.decode? d.encode.toJson = some d.shown := by
  simp [ApiDeclaration.decode?, ApiDeclaration.encode, readOr_list Api.decode?_encode,
    readOr_models, field?_omit, ApiDeclaration.shown]

theorem Document.decode?_encode (d : Document) :
    Document.decode? d.encode.toJson = some d.shown := by
  simp [Document.decode?, Document.encode, keyMap?_toJson ApiDeclaration.decode?_encode, shown]

/-! ### Documents -/

theorem Api.encode_shown (a : Api) : a.shown.encode = a.encode := by
  simp [Api.encode, Api.shown, Draft.shown, Function.comp_def]

theorem ApiDeclaration.encode_shown (d : ApiDeclaration) : d.shown.encode = d.encode := by
  have happs : d.shown.apis.map Api.encode = d.apis.map Api.encode := by
    simp [ApiDeclaration.shown, Api.encode_shown]
  unfold ApiDeclaration.encode
  rw [happs]
  rfl

theorem Document.encode_shown (d : Document) : d.shown.encode = d.encode := by
  simp [Document.encode, Document.shown, ofKeyMap, KeyMap.map, ApiDeclaration.encode_shown]

/-- **What a document shows is read back from its JSON text**, and its text is the same text. -/
theorem Document.ofJsonText?_jsonText (d : Document) :
    Document.ofJsonText? d.jsonText = some d.shown ∧ d.shown.jsonText = d.jsonText := by
  constructor
  · have hread : read? d.jsonText = some d.encode.toJson := read?_text (isWhole_toJson d.encode)
    rw [Document.ofJsonText?, hread]
    exact d.decode?_encode
  · rw [Document.jsonText, Document.jsonText, d.encode_shown]

end ApiScribe
