import ApiScribe.Json.Write

/-!
What a document is before it is written: a tree of texts, integers, flags, lists and fields, from
which each output format makes its own text.
-/

namespace ApiScribe

inductive Node where
  | text (s : String)
  | int (n : Int)
  | flag (b : Bool)
  | list (items : List Node)
  | fields (entries : List (String × Node))
  /-- A text that stands for one of several alternatives. -/
  | variant (name value : String)
  deriving Repr, Inhabited

namespace Node

mutual

/-- The node as JSON; an alternative is an object with one member. -/
def toJson : Node → Json
  | text s => .str s
  | int n => .int n
  | flag b => .bool b
  | list ns => .arr (toJsonList ns)
  | fields es => .obj (toJsonFields es)
  | variant name value => .obj [(name, .str value)]

def toJsonList : List Node → List Json
  | [] => []
  | n :: ns => n.toJson :: toJsonList ns

def toJsonFields : List (String × Node) → List (String × Json)
  | [] => []
  | (k, n) :: es => (k, n.toJson) :: toJsonFields es

end

def jsonText (n : Node) : String := n.toJson.text

end Node

end ApiScribe
