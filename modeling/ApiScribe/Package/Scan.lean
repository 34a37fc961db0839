import ApiScribe.Files.Tree
import ApiScribe.KeyMap
import ApiScribe.Source.Language

/-!
The packages below a directory, and the source files of one package.  Hidden directories, vendored
code and test data hold no packages, nor does anything below them.
-/

namespace ApiScribe.Package

/-- Names of directories that hold no packages. -/
def skippedNames : List String := ["vendor", "testdata", "target", "node_modules"]

/-- Whether a directory of this name is passed over. -/
def isSkipped (name : String) : Bool :=
  name.startsWith "." || name.startsWith "_" || skippedNames.contains name

mutual

/-- The places of a directory and of all directories below it that are not passed over, each before
those below it. -/
def places (before : List String) : Entry → List (List String)
  | .dir es => before :: placesBelow before es
  | _ => []

/-- The places of some entries of a directory. -/
def placesBelow (before : List String) : List (String × Entry) → List (List String)
  | [] => []
  | (name, e) :: es =>
    (if isSkipped name then [] else places (before ++ [name]) e) ++ placesBelow before es

end

/-- The id of the package at a place below the package `id`. -/
def idBelow (id : String) : List String → String
  | [] => id
  | place => String.ofList (Text.dropEnd (· == '/') id.toList) ++ "/" ++ Path.joined place

/-- What a walk comes to. -/
structure ScanResult where
  packages : List String
  /-- Messages about the directories that cannot be listed. -/
  warnings : List String
  deriving DecidableEq, Repr, Inhabited

/-- The message about the directory at some names below a path. -/
def warning (path : String) (names : List String) (cause : IOCause) : String :=
  "Failed to access path: IO error for operation on " ++ names.foldl Path.join path ++ ": " ++
    cause.message

/-- Walks through a directory and those below it. -/
def walk (files : FileTree) (path id : String) : Except Error ScanResult :=
  match files.find path with
  | .ok (place, .dir es) =>
    let ways := places [] (.dir es)
    .ok {
      packages := ways.map (idBelow id)
      warnings := ways.filterMap fun names =>
        (files.fault? (place ++ names)).map (warning path names) }
  | _ => .error (.io path .notFound)

/-- The ids of the package in a directory and of those below it. -/
def scan (files : FileTree) (path id : String) : Except Error (List String) :=
  (walk files path id).map (·.packages)

/-- The paths of the source files of a package, in the order of their names. -/
def sourceFiles (files : FileTree) (l : Language) (path : String) : Except Error (List String) :=
  match files.list path with
  | .ok es =>
    let sources := es.filter fun (name, e) => e.isFile && l.ownsName name
    .ok ((KeyMap.ofList sources).keys.map (Path.join path))
  | .error cause => .error (.io path cause)

end ApiScribe.Package
