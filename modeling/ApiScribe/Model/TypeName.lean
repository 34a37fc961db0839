import ApiScribe.Text.Cut

/-!
Names of types as they are written in sources: which of them are basic, which stand for an untyped
value, and the id of the model that a declared type gets.
-/

namespace ApiScribe.TypeName

def basicTable : List String :=
  ["bool", "uint", "uint8", "uint16", "uint32", "uint64", "int", "int8", "int16", "int32", "int64",
    "float32", "float64", "string", "complex64", "complex128", "byte", "rune", "uintptr", "error",
    "Time"]

/-- A name for an untyped value: `any`, and every name that mentions an interface. -/
def isInterface (name : String) : Bool :=
  name == "any" || Text.occurs "interface".toList name.toList

/-- A name that never stands for a model. -/
def isBasic (name : String) : Bool :=
  basicTable.contains name || name == "time.Time" || isInterface name

/-- The one spelling of a basic type. -/
def normalize (name : String) : String :=
  if name = "time.Time" then "Time" else name

/-- The id of the model of a type that `package` declares: the dotted package, a dot, and the
name. -/
def modelId (package name : String) : String :=
  let dotted := (Text.strip (· == '/') package.toList).map fun c => if c = '/' then '.' else c
  if dotted.isEmpty then name else String.ofList dotted ++ "." ++ name

end ApiScribe.TypeName
