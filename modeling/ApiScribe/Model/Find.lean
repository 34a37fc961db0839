import ApiScribe.Model.TypeName
import ApiScribe.Package.Workspace

/-!
Finding declarations by name.  A qualified name is looked up in the package that its qualifier names
in full, or else in the packages that are imported under it; a plain name in the package itself, or
else among the items that the package imports by name.

The search only needs to know what single packages declare and import, wherever it learns that from.
-/

namespace ApiScribe

/-- What single packages declare and import, as far as a search may ask. -/
structure Packages (m : Type → Type) where
  /-- The declaration of a name in a package. -/
  declared : String → String → m (Option TypeDecl)
  /-- The packages that an alias may stand for in a package. -/
  imported : String → String → m (Option (List String))

namespace Packages

variable {m : Type → Type} [Monad m] [MonadExceptOf Error m] (ps : Packages m)

/-- The first of some packages that declares a name. -/
def declaredIn (name : String) : List String → m (Option (TypeDecl × String))
  | [] => return none
  | package :: packages => do
    match ← ps.declared package name with
    | some decl => return some (decl, package)
    | none => declaredIn name packages

/-- The first of some imports that is a declared type: the last segment is its name and the rest its
package. -/
def declaredItem : List String → m (Option (TypeDecl × String))
  | [] => return none
  | item :: items => do
    match Text.splitLast '/' item with
    | none => declaredItem items
    | some (package, name) =>
      match ← ps.declared package name with
      | some decl => return some (decl, package)
      | none => declaredItem items

def findPlain (name package : String) : m (TypeDecl × String) := do
  match ← ps.declared package name with
  | some decl => return (decl, package)
  | none =>
    match ← ps.declaredItem ((← ps.imported package name).getD []) with
    | some found => return found
    | none => throw (.modelNotFound name package)

/-- Whether a qualifier can only be a package in full. -/
def isPackagePath (qualifier : String) : Bool :=
  qualifier.toList.any fun c => c == '/' || c == '.'

/-- The declaration of a qualified name, given in two parts and as a whole. -/
def findQualified (qualifier name whole package : String) : m (TypeDecl × String) := do
  match ← ps.declared qualifier name with
  | some decl => return (decl, qualifier)
  | none =>
    if isPackagePath qualifier then throw (.modelNotFound whole package)
    match ← ps.imported package qualifier with
    | none => throw (.importNotFound qualifier package)
    | some packages =>
      match ← ps.declaredIn name packages with
      | some found => return found
      | none => throw (.modelNotFound whole package)

def find (name package : String) : m (TypeDecl × String) :=
  match Text.splitLast '.' name with
  | none => ps.findPlain name package
  | some (qualifier, bare) => ps.findQualified qualifier bare name package

end Packages

namespace Workspace

variable (w : Workspace)

/-- The declaration of a name in a package, which is registered first; a package without location
declares nothing. -/
def lookup (package name : String) : Session (Option TypeDecl) := do
  match ← (w.tryResolve package : StateM Memory (Option String)) with
  | none => return none
  | some location =>
    w.registerOnce package location
    return (← get).type? location name

/-- The packages that an alias may stand for in a package, which is registered first. -/
def candidates (package name : String) : Session (Option (List String)) := do
  let location ← w.resolve package
  w.registerOnce package location
  return (← get).candidates? location name

/-- The packages of a workspace, registered as they are asked about. -/
def packages : Packages Session where
  declared := w.lookup
  imported := w.candidates

/-- The declaration that a name means in a package, and the package that declares it. -/
def findDefinition (name package : String) : Session (TypeDecl × String) :=
  w.packages.find name package

end Workspace

end ApiScribe
