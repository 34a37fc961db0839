import ApiScribe.Operation.Draft

/-!
Directives applied in place.  `Draft.applyLine` reads a line first and then says what the draft
becomes.  Here reading and changing go hand in hand, one assignment after the other; an error ends
the line, and whatever has been assigned by then stays.
-/

namespace ApiScribe

/-- A program that changes a draft in place and may look types up.  What it has changed before an
error stays changed. -/
abbrev InPlace (σ α : Type) := ExceptT Error (StateM (Draft × σ)) α

namespace InPlace

open Draft (TypeRef)

variable {σ α : Type}

/-- Assigns to the draft. -/
def change (f : Draft → Draft) : InPlace σ Unit := modify fun (d, s) => (f d, s)

/-- Fails on a directive that breaks its grammar. -/
def refuse (line reason : String) : InPlace σ α := throw (.malformedDirective line reason)

/-- Looks a type up from the package of the draft. -/
def ask (types : Lookup σ) (type : String) : InPlace σ Resolved := fun (d, s) =>
  let (answer, s') := types type d.package s
  (answer, (d, s'))

/-- Looks a type up and collects its models.  Basic types are not looked up. -/
def registerType (types : Lookup σ) (type : String) : InPlace σ TypeRef := do
  if type = "error" ∨ TypeName.isBasic type then
    return .primitive type
  match ← ask types type with
  | .primitive name => return .primitive name
  | .model model inner =>
    change fun d => { d with models := d.models ++ [model] }
    change fun d => { d with models := d.models ++ inner }
    return .model model.id

/-! ### The forms of a directive -/

def route (line : String) (rest : List Char) : InPlace σ Unit := do
  match (Text.leadingWords 2 rest).1 with
  | [] => refuse line "route path is missing"
  | path :: more =>
    change fun d => { d with operation.path := String.ofList path }
    change fun d => { d with operation.httpMethod := String.ofList (Directive.method more) }

def resource (line : String) (rest : List Char) : InPlace σ Unit := do
  match rest.dropWhile (· == '/') with
  | [] => refuse line "resource name is missing"
  | name => change fun d => { d with resource := some (String.ofList name) }

def parameter (types : Lookup σ) (line : String) (rest : List Char) : InPlace σ Unit := do
  match Text.leadingWords 4 rest with
  | ([name, location, type, flag], remainder) =>
    let ref ← registerType types (String.ofList type)
    change fun d => { d with operation.parameters := d.operation.parameters ++
      [{ location := String.ofList location
         name := String.ofList name
         description := String.ofList (Directive.unquote remainder)
         dataType := ref.name
         type := ref.name
         required := Directive.isRequiredFlag flag }] }
  | _ => refuse line "expected a name, a location, a type and a required flag"

/-- Adds one content type after the other, unless it is there; unknown ones are passed over. -/
def addContentTypes (consumed produced : Bool) : List (List Char) → InPlace σ Unit
  | [] => return
  | token :: tokens => do
    match Directive.contentType? (String.ofList token) with
    | none => addContentTypes consumed produced tokens
    | some name =>
      if consumed then
        change fun d => { d with operation.consumes := pushNew d.operation.consumes name }
      if produced then
        change fun d => { d with operation.produces := pushNew d.operation.produces name }
      addContentTypes consumed produced tokens

def contentTypes (line : String) (consumed produced : Bool) (rest : List Char) :
    InPlace σ Unit := do
  match ((Text.pieces (· == ',') rest).map Text.trim).filter fun token => !token.isEmpty with
  | [] => refuse line "content type list is empty"
  | tokens => addContentTypes consumed produced tokens

/-- The result type of the operation, from the type of its successful answer. -/
def setResult (marker : String) (ref : TypeRef) : InPlace σ Unit := do
  if marker = "\x7barray\x7d" then
    change fun d => { d with operation.type := "array" }
    change fun d => { d with operation.items := some ref.items }
  else
    change fun d => { d with operation.type := ref.name }
    change fun d => { d with operation.items := none }

def addMessage (message : ResponseMessage) : InPlace σ Unit :=
  change fun d => { d with operation.responseMessages := d.operation.responseMessages ++ [message] }

/-- Adds an answer.  Only the one with code 200 says what the operation returns. -/
def addResponse (types : Lookup σ) (code : Int32) (marker type message : String) :
    InPlace σ Unit := do
  if code = 200 then
    let ref ←
      if marker = "\x7bobject\x7d" ∨ marker = "\x7barray\x7d" then registerType types type
      else pure (.primitive type)
    setResult marker ref
    addMessage { code, message, responseModel := ref.modelId }
  else
    addMessage { code, message }

def response (types : Lookup σ) (line : String) (rest : List Char) : InPlace σ Unit := do
  let (words, remainder) := Text.leadingWords 3 rest
  match words with
  | [] => refuse line "status code is missing"
  | code :: more =>
    match Text.readInt32? code with
    | none => refuse line ("status code '" ++ String.ofList code ++ "' is not an integer")
    | some n =>
      match more with
      | [marker, type] =>
        addResponse types n (String.ofList marker) (String.ofList type)
          (String.ofList (Directive.unquote remainder))
      | _ => refuse line "expected a \x7bmarker\x7d and a type name"

/-- The form that belongs to a tag. -/
def tagged (types : Lookup σ) (line tag : String) (rest : List Char) : InPlace σ Unit :=
  match tag with
  | "@Router" | "@router" => route line rest
  | "@Title" => change fun d => { d with operation.nickname := String.ofList rest }
  | "@Description" => change fun d => { d with operation.summary := String.ofList rest }
  | "@Notes" => change fun d => { d with operation.notes := String.ofList rest }
  | "@Resource" => resource line rest
  | "@Param" => parameter types line rest
  | "@Accept" => contentTypes line true true rest
  | "@Consume" => contentTypes line true false rest
  | "@Produce" => contentTypes line false true rest
  | "@Success" | "@Failure" => response types line rest
  | _ => pure ()

/-- Applies one line.  Lines that are no directives are passed over. -/
def line (types : Lookup σ) (line : String) : InPlace σ Unit := do
  let cs := Text.trim line.toList
  match Directive.split? cs with
  | none => return
  | some (tag, rest) =>
    tagged types (String.ofList cs) (String.ofList tag) rest
    change fun d => { d with models := Model.dedup d.models }

end InPlace

end ApiScribe
