import ApiScribe.Model.TypeName
import ApiScribe.Operation.Basic
import ApiScribe.Operation.Directive

/-!
Operations under construction.  The directives of a function's comment are applied one by one to a
draft; the types that they name are looked up, and the models found travel with the draft.
-/

namespace ApiScribe

/-- What a type name stands for: a primitive, or a model together with the models it refers to. -/
inductive Resolved where
  | primitive (name : String)
  | model (model : Model) (inner : List Model)
  deriving DecidableEq, Repr, Inhabited

/-- A way to look up a type name from within a package; `σ` is what a lookup may remember. -/
abbrev Lookup (σ : Type) := String → String → ExceptT Error (StateM σ) Resolved

namespace Draft

/-- The draft that a function of `package` starts with. -/
def start (package : String) : Draft := { package }

/-- What a directive refers to by a type name. -/
inductive TypeRef where
  | primitive (name : String)
  | model (id : String)
  deriving DecidableEq, Repr

def TypeRef.name : TypeRef → String
  | primitive name => name
  | model id => id

/-- The elements of an array of the type. -/
def TypeRef.items : TypeRef → Items
  | primitive name => .primitive name
  | model id => .model id

/-- The id, if the type is a model. -/
def TypeRef.modelId : TypeRef → String
  | primitive _ => ""
  | model id => id

section

variable {σ : Type} (types : Lookup σ)

/-- Looks a type up and collects its models.  Basic types are not looked up. -/
def registerType (d : Draft) (type : String) : ExceptT Error (StateM σ) (TypeRef × Draft) := do
  if type = "error" ∨ TypeName.isBasic type then
    return (.primitive type, d)
  match ← types type d.package with
  | .primitive name => return (.primitive name, d)
  | .model model inner =>
    return (.model model.id, { d with models := d.models ++ model :: inner })

/-- The result type of an operation, from the type of its successful answer. -/
def withResult (op : Operation) (marker : String) (ref : TypeRef) : Operation :=
  if marker = "\x7barray\x7d" then { op with type := "array", items := some ref.items }
  else { op with type := ref.name, items := none }

/-- Adds an answer.  Only the one with code 200 says what the operation returns. -/
def addResponse (d : Draft) (code : Int32) (marker type message : String) :
    ExceptT Error (StateM σ) Draft := do
  if code ≠ 200 then
    return { d with operation.responseMessages :=
      d.operation.responseMessages ++ [{ code, message }] }
  let isModel := marker = "\x7bobject\x7d" ∨ marker = "\x7barray\x7d"
  let (ref, d) ← if isModel then registerType types d type else pure (.primitive type, d)
  let op := withResult d.operation marker ref
  return { d with operation := { op with responseMessages :=
    op.responseMessages ++ [{ code, message, responseModel := ref.modelId }] } }

/-- What a directive does to a draft, before the models are made unique. -/
def applyRaw (d : Draft) : Directive → ExceptT Error (StateM σ) Draft
  | .route path method => return { d with operation.path := path, operation.httpMethod := method }
  | .title text => return { d with operation.nickname := text }
  | .description text => return { d with operation.summary := text }
  | .notes text => return { d with operation.notes := text }
  | .resource name => return { d with resource := some name }
  | .parameter name location type required description => do
    let (ref, d) ← registerType types d type
    return { d with operation.parameters := d.operation.parameters ++
      [{ location, name, description, dataType := ref.name, type := ref.name, required }] }
  | .contentTypes consumed produced names =>
    return { d with
      operation.consumes :=
        if consumed then names.foldl pushNew d.operation.consumes else d.operation.consumes
      operation.produces :=
        if produced then names.foldl pushNew d.operation.produces else d.operation.produces }
  | .response code marker type message => addResponse types d code marker type message
  | .other _ => return d

def apply (d : Draft) (directive : Directive) : ExceptT Error (StateM σ) Draft := do
  let d ← applyRaw types d directive
  return { d with models := Model.dedup d.models }

/-- Applies one line: the draft after it, and the error if there is one.  Lines that are no
directives are passed over. -/
def applyLine (d : Draft) (line : String) : StateM σ (Except Error Unit × Draft) := do
  match Directive.read? line with
  | .error e => return (.error e, d)
  | .ok none => return (.ok (), d)
  | .ok (some directive) =>
    match ← (apply types d directive).run with
    | .ok d' => return (.ok (), d')
    | .error e => return (.error e, d)

/-- Applies the directives among the lines of a comment, after `found` of them.  A malformed one is
passed over, any other error ends the reading; a comment without directive is an error. -/
def applyLines (found : Bool) (d : Draft) : List String → StateM σ (Except Error Unit × Draft)
  | [] => return (if found then .ok () else .error .noDirectives, d)
  | line :: lines =>
    if Directive.isDirective line then do
      match ← applyLine types d line with
      | (.ok (), d') => applyLines true d' lines
      | (.error e, d') =>
        if e.isMalformed then applyLines true d' lines
        else return (.error (.inDirective (Text.trimmed line) e), d')
    else applyLines found d lines

def applyComment (d : Draft) (lines : List String) : StateM σ (Except Error Unit × Draft) :=
  applyLines types false d lines

end

end Draft

end ApiScribe
