import ApiScribe.Document.Basic
import ApiScribe.Node
import ApiScribe.Yaml.Write

/-!
The written form of a document and its parts: the names and the order of the fields, and which of
them are left out when they are empty.
-/

namespace ApiScribe

namespace Node

/-- A field with a text that is left out when it is empty. -/
def optText (name value : String) : List (String × Node) :=
  if value.isEmpty then [] else [(name, text value)]

/-- A field with a list that is left out when it is empty. -/
def optList (name : String) (ns : List Node) : List (String × Node) :=
  if ns.isEmpty then [] else [(name, list ns)]

/-- A field that may be missing. -/
def opt (name : String) : Option Node → List (String × Node)
  | some n => [(name, n)]
  | none => []

def texts (ss : List String) : List Node := ss.map text

/-- A map with one field for each key. -/
def ofKeyMap (encode : α → Node) (m : KeyMap α) : Node :=
  fields (m.entries.map fun (k, v) => (k, encode v))

end Node

open Node

def Items.encode : Items → Node
  | .primitive name => variant "type" name
  | .model id => variant "$ref" id

def Property.encode (p : Property) : Node :=
  fields <| [("type", text p.type)] ++ optText "description" p.description ++
    opt "items" (p.items.map Items.encode) ++ optText "format" p.format

def Model.encode (m : Model) : Node :=
  fields <| [("id", text m.id)] ++ optList "required" (texts m.required) ++
    [("properties", ofKeyMap Property.encode m.properties)]

def Parameter.encode (p : Parameter) : Node :=
  fields <| [("paramType", text p.location), ("name", text p.name),
      ("description", text p.description), ("dataType", text p.dataType), ("type", text p.type)] ++
    optText "format" p.format ++
    [("allowMultiple", flag p.allowMultiple), ("required", flag p.required)] ++
    opt "minimum" (p.minimum.map fun n => int n.toInt) ++
    opt "maximum" (p.maximum.map fun n => int n.toInt)

def ResponseMessage.encode (r : ResponseMessage) : Node :=
  fields <| [("code", int r.code.toInt), ("message", text r.message)] ++
    optText "responseModel" r.responseModel

def Operation.encode (op : Operation) : Node :=
  fields <| [("httpMethod", text op.httpMethod), ("nickname", text op.nickname),
      ("type", text op.type)] ++
    opt "items" (op.items.map Items.encode) ++ optText "summary" op.summary ++
    optText "notes" op.notes ++ optList "parameters" (op.parameters.map Parameter.encode) ++
    optList "responseMessages" (op.responseMessages.map ResponseMessage.encode) ++
    optList "consumes" (texts op.consumes) ++ optList "produces" (texts op.produces) ++
    [("path", text op.path)]

def ApiRef.encode (r : ApiRef) : Node :=
  fields [("path", text r.path), ("description", text r.description)]

def Info.encode (i : Info) : Node :=
  fields <| optText "title" i.title ++ optText "description" i.description ++
    optText "contact" i.contact ++ optText "termsOfServiceUrl" i.termsOfServiceUrl ++
    optText "license" i.license ++ optText "licenseUrl" i.licenseUrl

def ResourceListing.encode (l : ResourceListing) : Node :=
  fields <| [("apiVersion", text l.apiVersion), ("swaggerVersion", text l.swaggerVersion)] ++
    optText "basePath" l.basePath ++
    [("apis", list (l.apis.map ApiRef.encode)), ("info", l.info.encode)]

def Api.encode (a : Api) : Node :=
  fields <| [("path", text a.path), ("description", text a.description)] ++
    optList "operations" (a.operations.map fun d => d.operation.encode)

def ApiDeclaration.encode (d : ApiDeclaration) : Node :=
  fields <| [("apiVersion", text d.apiVersion), ("swaggerVersion", text d.swaggerVersion),
      ("basePath", text d.basePath), ("resourcePath", text d.resourcePath)] ++
    optList "consumes" (texts d.consumes) ++ optList "produces" (texts d.produces) ++
    optList "apis" (d.apis.map Api.encode) ++
    (if d.models.isEmpty then [] else [("models", ofKeyMap Model.encode d.models)])

namespace Document

def encode (d : Document) : Node :=
  fields [("resourceListing", d.listing.encode), ("apis", ofKeyMap ApiDeclaration.encode d.apis)]

def jsonText (d : Document) : String := d.encode.jsonText

def yamlText (d : Document) : String := Yaml.text d.encode

/-- The forms in which a document is written. -/
inductive Format where
  | json
  | yaml
  deriving DecidableEq, Repr, Inhabited

def text (d : Document) : Format → String
  | .json => d.jsonText
  | .yaml => d.yamlText

end Document

end ApiScribe
