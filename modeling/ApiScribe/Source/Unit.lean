import ApiScribe.Text.Cut

/-!
What a source file tells: the types and functions that it declares, what it imports, and its comment
lines.  Pointers and other wrappers that do not show in an API are already taken off the types.
-/

namespace ApiScribe

/-- A type as a declaration refers to it. -/
inductive TypeExpr where
  | named (qualifier : Option String) (name : String)
  | array (element : TypeExpr)
  /-- A map with the given values. -/
  | map (value : TypeExpr)
  | interface
  /-- A type that no model can show, by its text. -/
  | unsupported (label : String)
  deriving DecidableEq, Repr, Inhabited

/-- What is attached to a field to tell how it is serialized. -/
structure FieldHints where
  rename : Option String := none
  required : Bool := false
  description : Option String := none
  skip : Bool := false
  deriving DecidableEq, Repr, Inhabited

structure FieldDecl where
  /-- No name for a field whose own fields are flattened into the struct. -/
  name : Option String
  type : TypeExpr
  hints : FieldHints := {}
  deriving DecidableEq, Repr, Inhabited

inductive TypeKind where
  | struct (fields : List FieldDecl)
  | synonym (type : TypeExpr)
  | interface
  deriving DecidableEq, Repr, Inhabited

structure TypeDecl where
  name : String
  kind : TypeKind
  deriving DecidableEq, Repr, Inhabited

structure FunctionDecl where
  name : String
  /-- The name of the type that the function is a method of. -/
  receiver : Option String := none
  /-- The lines of the comment that belongs to the function. -/
  doc : List String := []
  deriving DecidableEq, Repr, Inhabited

structure ImportDecl where
  /-- The imported package. -/
  path : String
  /-- The name that the file itself gives to the package. -/
  givenName : Option String := none
  deriving DecidableEq, Repr, Inhabited

namespace ImportDecl

def lastSegment (i : ImportDecl) : String :=
  match Text.splitLast '/' i.path with
  | some (_, last) => last
  | none => i.path

/-- The name that the file uses for the package.  A blank or a dot stands for the last segment. -/
def localName (i : ImportDecl) : String :=
  match i.givenName with
  | some name => if name = "_" ∨ name = "." ∨ name = "" then i.lastSegment else name
  | none => i.lastSegment

end ImportDecl

structure SourceUnit where
  path : String
  types : List TypeDecl := []
  functions : List FunctionDecl := []
  imports : List ImportDecl := []
  /-- All comment lines of the file, in order. -/
  comments : List String := []
  deriving DecidableEq, Repr, Inhabited

inductive Language where
  | go
  | rust
  deriving DecidableEq, Repr, Inhabited

end ApiScribe
