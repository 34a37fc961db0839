import ApiScribe.Document.Basic
import ApiScribe.Json.Read

/-!
Reading a document and its parts from JSON.  A record is an object, or an array of its fields in
their order; fields that may be empty may be missing, and unknown fields are passed over.
-/

namespace ApiScribe

namespace Json

/-- The fields of a record, by position and by name. -/
abbrev Fields := Nat → String → Option Json

/-- The fields of a record with `arity` of them. -/
def fields? (j : Json) (arity : Nat) : Option Fields :=
  match j with
  | obj ms => some fun _ name => member? ms name
  | arr js => if js.length ≤ arity then some fun i _ => js[i]? else none
  | _ => none

/-- A field that must be there. -/
def Fields.required (f : Fields) (i : Nat) (name : String) (read : Json → Option α) : Option α :=
  (f i name).bind read

/-- A field that may be missing. -/
def Fields.optional (f : Fields) (i : Nat) (name : String) (missing : α) (read : Json → Option α) :
    Option α :=
  match f i name with
  | some j => read j
  | none => some missing

/-- A field that may be missing or null. -/
def Fields.nullable (f : Fields) (i : Nat) (name : String) (read : Json → Option α) :
    Option (Option α) :=
  match f i name with
  | some null | none => some none
  | some j => (read j).map some

def text? : Json → Option String
  | str s => some s
  | _ => none

def flag? : Json → Option Bool
  | bool b => some b
  | _ => none

def int32? : Json → Option Int32
  | int n =>
    if Int32.minValue.toInt ≤ n ∧ n ≤ Int32.maxValue.toInt then some (Int32.ofInt n) else none
  | _ => none

def int64? : Json → Option Int64
  | int n =>
    if Int64.minValue.toInt ≤ n ∧ n ≤ Int64.maxValue.toInt then some (Int64.ofInt n) else none
  | _ => none

def list? (read : Json → Option α) : Json → Option (List α)
  | arr js => js.mapM read
  | _ => none

def keyMap? (read : Json → Option α) : Json → Option (KeyMap α)
  | obj ms => (ms.mapM fun e => (read e.2).map fun v => (e.1, v)).map KeyMap.ofList
  | _ => none

end Json

open Json

/-- Reads array elements: an object with one member. -/
def Items.decode? : Json → Option Items
  | .obj [("type", .str name)] => some (.primitive name)
  | .obj [("$ref", .str id)] => some (.model id)
  | _ => none

def Property.decode? (j : Json) : Option Property := do
  let f ← j.fields? 4
  return {
    type := ← f.required 0 "type" text?
    description := ← f.optional 1 "description" "" text?
    items := ← f.nullable 2 "items" Items.decode?
    format := ← f.optional 3 "format" "" text? }

def Model.decode? (j : Json) : Option Model := do
  let f ← j.fields? 3
  return {
    id := ← f.required 0 "id" text?
    required := ← f.optional 1 "required" [] (list? text?)
    properties := ← f.required 2 "properties" (keyMap? Property.decode?) }

def Parameter.decode? (j : Json) : Option Parameter := do
  let f ← j.fields? 10
  return {
    location := ← f.required 0 "paramType" text?
    name := ← f.required 1 "name" text?
    description := ← f.required 2 "description" text?
    dataType := ← f.required 3 "dataType" text?
    type := ← f.required 4 "type" text?
    format := ← f.optional 5 "format" "" text?
    allowMultiple := ← f.required 6 "allowMultiple" flag?
    required := ← f.required 7 "required" flag?
    minimum := ← f.nullable 8 "minimum" int64?
    maximum := ← f.nullable 9 "maximum" int64? }

def ResponseMessage.decode? (j : Json) : Option ResponseMessage := do
  let f ← j.fields? 3
  return {
    code := ← f.required 0 "code" int32?
    message := ← f.required 1 "message" text?
    responseModel := ← f.optional 2 "responseModel" "" text? }

def Operation.decode? (j : Json) : Option Operation := do
  let f ← j.fields? 11
  return {
    httpMethod := ← f.required 0 "httpMethod" text?
    nickname := ← f.required 1 "nickname" text?
    type := ← f.required 2 "type" text?
    items := ← f.nullable 3 "items" Items.decode?
    summary := ← f.optional 4 "summary" "" text?
    notes := ← f.optional 5 "notes" "" text?
    parameters := ← f.optional 6 "parameters" [] (list? Parameter.decode?)
    responseMessages := ← f.optional 7 "responseMessages" [] (list? ResponseMessage.decode?)
    consumes := ← f.optional 8 "consumes" [] (list? text?)
    produces := ← f.optional 9 "produces" [] (list? text?)
    path := ← f.required 10 "path" text? }

/-- Reads an operation of a document; what the document does not show of it is missing. -/
def Draft.decode? (j : Json) : Option Draft :=
  (Operation.decode? j).map fun operation => { operation }

def ApiRef.decode? (j : Json) : Option ApiRef := do
  let f ← j.fields? 2
  return {
    path := ← f.required 0 "path" text?
    description := ← f.required 1 "description" text? }

def Info.decode? (j : Json) : Option Info := do
  let f ← j.fields? 6
  return {
    title := ← f.optional 0 "title" "" text?
    description := ← f.optional 1 "description" "" text?
    contact := ← f.optional 2 "contact" "" text?
    termsOfServiceUrl := ← f.optional 3 "termsOfServiceUrl" "" text?
    license := ← f.optional 4 "license" "" text?
    licenseUrl := ← f.optional 5 "licenseUrl" "" text? }

def ResourceListing.decode? (j : Json) : Option ResourceListing := do
  let f ← j.fields? 5
  return {
    apiVersion := ← f.required 0 "apiVersion" text?
    swaggerVersion := ← f.required 1 "swaggerVersion" text?
    basePath := ← f.optional 2 "basePath" "" text?
    apis := ← f.required 3 "apis" (list? ApiRef.decode?)
    info := ← f.required 4 "info" Info.decode? }

def Api.decode? (j : Json) : Option Api := do
  let f ← j.fields? 3
  return {
    path := ← f.required 0 "path" text?
    description := ← f.required 1 "description" text?
    operations := ← f.optional 2 "operations" [] (list? Draft.decode?) }

def ApiDeclaration.decode? (j : Json) : Option ApiDeclaration := do
  let f ← j.fields? 8
  return {
    apiVersion := ← f.required 0 "apiVersion" text?
    swaggerVersion := ← f.required 1 "swaggerVersion" text?
    basePath := ← f.required 2 "basePath" text?
    resourcePath := ← f.required 3 "resourcePath" text?
    consumes := ← f.optional 4 "consumes" [] (list? text?)
    produces := ← f.optional 5 "produces" [] (list? text?)
    apis := ← f.optional 6 "apis" [] (list? Api.decode?)
    models := ← f.optional 7 "models" ∅ (keyMap? Model.decode?) }

def Document.decode? (j : Json) : Option Document := do
  let f ← j.fields? 2
  return {
    listing := ← f.required 0 "resourceListing" ResourceListing.decode?
    apis := ← f.required 1 "apis" (keyMap? ApiDeclaration.decode?) }

def Document.ofJsonText? (s : String) : Option Document := (Json.read? s).bind Document.decode?

end ApiScribe
