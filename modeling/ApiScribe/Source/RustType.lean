import ApiScribe.Source.RustGrammar
import ApiScribe.Source.UseTree

/-!
The types of Rust sources, read from their phrases.  Wrappers that do not show when a value is
serialized are taken off, and primitive types get their common names.
-/

namespace ApiScribe

abbrev RustPhrase := Phrase RustGrammar.Name RustToken

namespace RustType

open RustGrammar

def wrappers : List String := ["Option", "Box", "Rc", "Arc", "Cow"]

def collections : List String := ["Vec", "VecDeque", "HashSet", "BTreeSet", "LinkedList"]

def maps : List String := ["HashMap", "BTreeMap"]

/-- The roots from which a primitive type may be named in full. -/
def primitiveRoots : List String := ["std", "core", "alloc"]

/-- The common name of a primitive type. -/
def primitive? : String → Option String
  | "bool" => some "bool"
  | "i8" => some "int8"
  | "i16" => some "int16"
  | "i32" => some "int32"
  | "i64" | "i128" => some "int64"
  | "isize" => some "int"
  | "u8" => some "uint8"
  | "u16" => some "uint16"
  | "u32" => some "uint32"
  | "u64" | "u128" => some "uint64"
  | "usize" => some "uint"
  | "f32" => some "float32"
  | "f64" => some "float64"
  | "char" => some "rune"
  | "String" | "str" => some "string"
  | _ => none

/-- A path that stands for itself, by its segments. -/
def ofSegments (qualifier : List String) (name : String) : TypeExpr :=
  if name = "Value" ∧ qualifier.getLast? = some "serde_json" then .interface
  else
    let rooted := (qualifier.head?.map primitiveRoots.contains).getD true
    match if rooted then primitive? name else none with
    | some primitive => .named none primitive
    | none =>
      match packageSegments? qualifier with
      | none => .unsupported ("::".intercalate (qualifier ++ [name]))
      | some [] => .named none name
      | some segments => .named (some ("/".intercalate segments)) name

def segmentName (p : RustPhrase) : String := (p.trees.head?.bind nameOf?).getD ""

/-- The type that an argument is, unless it is a lifetime, a value or the binding of a name. -/
def argumentType? (p : RustPhrase) : Option RustPhrase :=
  match p.parts with
  | [.node (.type joined) ps] => some (.node (.type joined) ps)
  | _ => none

def argumentTypes (segment : RustPhrase) : List RustPhrase :=
  (segment.all .argument).filterMap argumentType?

def isType (p : RustPhrase) : Bool := p.isA (.type true) || p.isA (.type false)

def firstType? (p : RustPhrase) : Option RustPhrase := p.parts.find? isType

def hasSign (c : Char) (p : RustPhrase) : Bool := p.trees.any (signChar c false)

/-- The path that a type consists of. -/
def path? (p : RustPhrase) : Option RustPhrase :=
  if (p.first? .furtherBounds).isSome || (p.first? .outerLifetimes).isSome || hasSign '!' p then none
  else p.first? .pathType

def lastName? (path : RustPhrase) : Option String := (path.all .segment).getLast?.map segmentName

def isOption (p : RustPhrase) : Bool := (path? p).bind lastName? == some "Option"

/-- The type inside parentheses, if they hold one and no comma. -/
def soleType? (group : RustPhrase) : Option RustPhrase :=
  match group.parts with
  | [p] => if isType p then some p else none
  | _ => none

/-- The type that a phrase writes, for types inside each other up to the given depth. -/
def ofPhrase : Nat → RustPhrase → TypeExpr
  | 0, _ => .unsupported "type"
  | depth + 1, p =>
    let inner (p : Option RustPhrase) : TypeExpr :=
      (p.map (ofPhrase depth)).getD (.unsupported "type")
    if (p.first? .functionType).isSome then .unsupported "fn"
    else if (p.first? .furtherBounds).isSome || (p.first? .outerLifetimes).isSome ||
        (p.first? (.boundType true)).isSome || (p.first? (.boundType false)).isSome then .interface
    else match p.first? .groupType with
    | some group =>
      if (group.first? .bounds).isSome then .interface
      else match soleType? group with
        | some p => ofPhrase depth p
        | none => .unsupported "tuple"
    | none =>
      match p.first? .arrayType with
      | some array => .array (inner (firstType? array))
      | none =>
        match p.first? .referenceType with
        | some reference => inner (firstType? reference)
        | none =>
          match (path? p).map fun path => (path.all .segment) with
          | none | some [] => .unsupported "type"
          | some (s :: ss) =>
            let last := (s :: ss).getLast?.getD s
            let name := segmentName last
            let arguments := argumentTypes last
            let argument (i : Nat) (make : TypeExpr → TypeExpr) : TypeExpr :=
              match arguments[i]? with
              | some p => make (ofPhrase depth p)
              | none => .unsupported name
            if wrappers.contains name then argument 0 id
            else if collections.contains name then argument 0 .array
            else if maps.contains name then argument 1 .map
            else ofSegments ((s :: ss).dropLast.map segmentName) name

/-- The name of the type that an implementation is for, through references. -/
def selfName? : Nat → RustPhrase → Option String
  | 0, _ => none
  | depth + 1, p =>
    match p.first? .referenceType with
    | some reference => (firstType? reference).bind (selfName? depth)
    | none => (path? p).bind lastName?

end RustType

end ApiScribe
