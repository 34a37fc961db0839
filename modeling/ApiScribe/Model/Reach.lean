import ApiScribe.Model.Shape
import ApiScribe.Package.Workspace

/-!
How far names can lead.  A declaration mentions the type names of its fields, or the type for which
it is another name; the files hold finitely many declarations and imports, so finitely many ids can
be met from some names in one package.
-/

namespace ApiScribe

/-! ### Mentioned names -/

/-- The name of the declared type in a shape. -/
def Shape.name? : Shape → Option String
  | single (.reference name) | many (.reference name) => some name
  | _ => none

namespace TypeDecl

/-- The types that a declaration is made of. -/
def types (decl : TypeDecl) : List TypeExpr :=
  match decl.kind with
  | .struct fields => fields.map (·.type)
  | .synonym type => [type]
  | .interface => []

/-- The names of declared types that a declaration mentions. -/
def mentions (overrides : Overrides) (decl : TypeDecl) : List String :=
  decl.types.filterMap fun type => (Shape.ofType overrides type).name?

end TypeDecl

/-! ### Everything in the files -/

namespace Entry

mutual

/-- The texts in an entry. -/
def texts : Entry → List String
  | .text content => [content]
  | .binary => []
  | .dir es => textsIn es

def textsIn : List (String × Entry) → List String
  | [] => []
  | (_, e) :: es => e.texts ++ textsIn es

end

end Entry

namespace Workspace

variable (w : Workspace) (overrides : Overrides)

def sources : List SourceUnit :=
  w.files.root.texts.filterMap fun source => (w.language.read "" source).toOption

def declarations : List TypeDecl := w.sources.flatMap (·.types)

/-- All packages that the files import. -/
def importPaths : List String := (w.sources.flatMap (·.imports)).map (·.path)

/-- Some names, and all that declarations mention. -/
def reachedNames (names : List String) : List String :=
  names ++ w.declarations.flatMap (TypeDecl.mentions overrides)

/-- A package, all packages that are imported, and those of which names or imported items are
part. -/
def reachedPackages (names : List String) (package : String) : List String :=
  package :: w.importPaths ++
    (w.importPaths.filterMap fun item => (Text.splitLast '/' item).map Prod.fst) ++
    ((w.reachedNames overrides names).filterMap fun name =>
      (Text.splitLast '.' name).map Prod.fst)

/-- The ids that can be met from some names in a package. -/
def reachedIds (names : List String) (package : String) : List String :=
  (w.reachedPackages overrides names package).flatMap fun package =>
    w.declarations.map fun decl => TypeName.modelId package decl.name

/-- How many calls can be under way in one another: each puts one id more under way, or merges one
type more while the same ids are under way. -/
def depthFrom (names : List String) (package : String) : Nat :=
  let size := (w.reachedIds overrides names package).length
  size * (size + 1) + 1

end Workspace

end ApiScribe
