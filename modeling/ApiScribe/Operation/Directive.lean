import ApiScribe.Error
import ApiScribe.Text.Cut
import ApiScribe.Text.Number
import ApiScribe.Text.Upper

/-!
The directive grammar: a comment line that starts with a tag such as `@Router` is a directive, and
`Directive.read?` says which one, without looking at any type.
-/

namespace ApiScribe

inductive Directive where
  /-- The path and the method of the route. -/
  | route (path method : String)
  | title (text : String)
  | description (text : String)
  | notes (text : String)
  /-- The resource that the operation belongs to. -/
  | resource (name : String)
  | parameter (name location type : String) (required : Bool) (description : String)
  /-- Known content types, and whether they are consumed and produced. -/
  | contentTypes (consumed produced : Bool) (types : List String)
  | response (code : Int32) (marker type message : String)
  /-- A tag without meaning for operations. -/
  | other (tag : String)
  deriving DecidableEq, Repr, Inhabited

namespace Directive

/-- The tag of a trimmed line and the trimmed text behind it; only a line that starts with `@` has a
tag. -/
def split? : List Char → Option (List Char × List Char)
  | '@' :: cs =>
    match Text.cutFirst Text.isBlank ('@' :: cs) with
    | some (tag, rest) => some (tag, Text.trim rest)
    | none => some ('@' :: cs, [])
  | _ => none

/-- The text of a quoted message: from the first double quote on, without the quotes around it.  A
text without a quote stands for itself. -/
def unquote (cs : List Char) : List Char :=
  let cs := Text.trim cs
  match cs.dropWhile (· != '"') with
  | [] => cs
  | quoted => Text.strip (· == '"') quoted

/-- The method named by the second word of a route; without one it is `GET`. -/
def method : List (List Char) → List Char
  | w :: _ =>
    let name := Text.upper (Text.strip (fun c => c == '[' || c == ']') w)
    if name.isEmpty then "GET".toList else name
  | [] => "GET".toList

/-- The full name of a content type. -/
def contentType? (token : String) : Option String :=
  if token = "json" ∨ token = "application/json" then some "application/json"
  else if token = "xml" ∨ token = "application/xml" then some "application/xml"
  else if token = "plain" ∨ token = "text/plain" then some "text/plain"
  else if token = "html" ∨ token = "text/html" then some "text/html"
  else none

/-- The words that mark a parameter as required. -/
def isRequiredFlag (cs : List Char) : Bool :=
  let flag := String.ofList (cs.map Char.toLower)
  flag == "true" || flag == "required"

/-! ### Reading -/

def readRoute (rest : List Char) : Except String Directive :=
  match (Text.leadingWords 2 rest).1 with
  | path :: more => .ok (.route (String.ofList path) (String.ofList (method more)))
  | [] => .error "route path is missing"

def readResource (rest : List Char) : Except String Directive :=
  match rest.dropWhile (· == '/') with
  | [] => .error "resource name is missing"
  | name => .ok (.resource (String.ofList name))

def readParameter (rest : List Char) : Except String Directive :=
  match Text.leadingWords 4 rest with
  | ([name, location, type, flag], remainder) =>
    .ok (.parameter (String.ofList name) (String.ofList location) (String.ofList type)
      (isRequiredFlag flag) (String.ofList (unquote remainder)))
  | _ => .error "expected a name, a location, a type and a required flag"

/-- Reads a comma-separated list of content types; unknown ones are passed over. -/
def readContentTypes (consumed produced : Bool) (rest : List Char) : Except String Directive :=
  match ((Text.pieces (· == ',') rest).map Text.trim).filter fun token => !token.isEmpty with
  | [] => .error "content type list is empty"
  | tokens =>
    .ok (.contentTypes consumed produced
      (tokens.filterMap fun token => contentType? (String.ofList token)))

/-- Reads what follows `@Success` and `@Failure`. -/
def readResponse (rest : List Char) : Except String Directive :=
  let (words, remainder) := Text.leadingWords 3 rest
  match words with
  | [] => .error "status code is missing"
  | code :: more =>
    match Text.readInt32? code with
    | none => .error ("status code '" ++ String.ofList code ++ "' is not an integer")
    | some n =>
      match more with
      | [marker, type] =>
        .ok (.response n (String.ofList marker) (String.ofList type)
          (String.ofList (unquote remainder)))
      | _ => .error "expected a \x7bmarker\x7d and a type name"

def readTagged (tag : String) (rest : List Char) : Except String Directive :=
  match tag with
  | "@Router" | "@router" => readRoute rest
  | "@Title" => .ok (.title (String.ofList rest))
  | "@Description" => .ok (.description (String.ofList rest))
  | "@Notes" => .ok (.notes (String.ofList rest))
  | "@Resource" => readResource rest
  | "@Param" => readParameter rest
  | "@Accept" => readContentTypes true true rest
  | "@Consume" => readContentTypes true false rest
  | "@Produce" => readContentTypes false true rest
  | "@Success" | "@Failure" => readResponse rest
  | tag => .ok (.other tag)

/-- Reads a line.  A line without tag is no directive; a directive that breaks its grammar is an
error that shows the trimmed line. -/
def read? (line : String) : Except Error (Option Directive) :=
  let cs := Text.trim line.toList
  match split? cs with
  | none => .ok none
  | some (tag, rest) =>
    match readTagged (String.ofList tag) rest with
    | .ok d => .ok (some d)
    | .error reason => .error (.malformedDirective (String.ofList cs) reason)

/-- Whether a line is a directive, well formed or not. -/
def isDirective (line : String) : Bool := (split? (Text.trim line.toList)).isSome

end Directive

end ApiScribe
