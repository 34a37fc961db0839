import ApiScribe.Source.Unit

/-!
Struct tags: texts of the form `key:"value" key:"value"`, and what they tell about a field.
-/

namespace ApiScribe.StructTag

def isKeyChar (c : Char) : Bool := ' ' < c && c != ':' && c != '"' && c != '\x7f'

/-- The text up to the closing quote, where a backslash takes the next character with it, and the
text behind the quote. -/
def readValue : List Char → Option (List Char × List Char)
  | [] => none
  | '"' :: cs => some ([], cs)
  | '\\' :: c :: cs => (readValue cs).map fun (v, r) => ('\\' :: c :: v, r)
  | c :: cs => (readValue cs).map fun (v, r) => (c :: v, r)

/-- The first key and its value, and the text behind them. -/
def readPair (cs : List Char) : Option ((List Char × List Char) × List Char) :=
  let cs := cs.dropWhile (· == ' ')
  let key := cs.takeWhile isKeyChar
  if key.isEmpty then none
  else match cs.dropWhile isKeyChar with
    | ':' :: '"' :: r => (readValue r).map fun (v, r) => ((key, v), r)
    | _ => none

/-- At most `fuel` pairs, up to the first text that is none. -/
def readPairs : Nat → List Char → List (List Char × List Char)
  | 0, _ => []
  | fuel + 1, cs =>
    match readPair cs with
    | some (pair, r) => pair :: readPairs fuel r
    | none => []

/-- The pairs of a tag.  Each has at least one character. -/
def pairs (tag : List Char) : List (List Char × List Char) := readPairs tag.length tag

/-- The value of the first pair with the given key. -/
def lookup (tag key : String) : Option String :=
  ((pairs tag.toList).lookup key.toList).map String.ofList

/-- The value of a key, if it is not empty. -/
def value? (tag key : String) : Option String := (lookup tag key).filter fun v => !v.isEmpty

/-- What the name and the options of an encoding tell. -/
def encodingHints (encoding : String) : FieldHints :=
  if encoding = "-" then { skip := true }
  else
    let parts := Text.splitOn ',' encoding
    let name := parts.headD ""
    let optioned := (parts.drop 1).any fun option => Text.trimmed option == "required"
    { rename := if name = "" ∨ name = "required" ∨ name = "omitempty" then none else some name
      required := name == "required" || optioned }

/-- What a tag tells about its field.  The name comes from the `json` tag or else from the `thrift`
tag; an option, or a tag of its own, marks the field as required. -/
def hints (tag : String) : FieldHints :=
  let named := match (value? tag "json").or (value? tag "thrift") with
    | some encoding => encodingHints encoding
    | none => {}
  { named with
    required := named.required || (value? tag "required").isSome
    description := value? tag "description" }

end ApiScribe.StructTag
