import ApiScribe.KeyMap
import ApiScribe.Model.TypeName
import ApiScribe.Source.Unit

/-!
The shape of a field: what remains of its type when nested collections are described by their
innermost element, and overridden and basic names by the primitives they stand for.
-/

namespace ApiScribe

/-- What a field or the elements of a collection hold. -/
inductive Element where
  | primitive (name : String)
  | interface
  /-- A declared type by its name. -/
  | reference (name : String)
  deriving DecidableEq, Repr, Inhabited

inductive Shape where
  | single (e : Element)
  | many (e : Element)
  | unsupported
  deriving DecidableEq, Repr, Inhabited

/-- Primitives for names of types, which go before all declarations. -/
abbrev Overrides := KeyMap String

namespace TypeName

/-- A name and the package or alias in front of it. -/
def split? (name : String) : Option (String × String) := Text.splitLast '.' name

/-- A name without what qualifies it. -/
def bare (name : String) : String := ((split? name).map Prod.snd).getD name

def full (qualifier : Option String) (name : String) : String :=
  match qualifier with
  | some q => q ++ "." ++ name
  | none => name

/-- The primitive that a name stands for: the one that overrides it, or else itself if it is
basic. -/
def primitive? (overrides : Overrides) (name : String) : Option String :=
  match (overrides.get? name).or (overrides.get? (bare name)) with
  | some primitive => some primitive
  | none => if isBasic name then some (normalize name) else none

end TypeName

namespace Shape

variable (overrides : Overrides)

/-- What a name stands for. -/
def ofName (name : String) : Element :=
  if TypeName.isInterface name then .interface
  else match TypeName.primitive? overrides name with
    | some primitive => .primitive primitive
    | none => .reference name

/-- The shape of a collection. -/
def collect : Shape → Shape
  | single e | many e => many e
  | unsupported => unsupported

def ofType : TypeExpr → Shape
  | .named qualifier name => single (ofName overrides (TypeName.full qualifier name))
  | .array element => (ofType element).collect
  | .map value => (ofType value).collect
  | .interface => single .interface
  | .unsupported _ => unsupported

/-- The name of the declared type that a type is. -/
def reference? (type : TypeExpr) : Option String :=
  match ofType overrides type with
  | single (.reference name) => some name
  | _ => none

end Shape

end ApiScribe
