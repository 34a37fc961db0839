import ApiScribe.Model.Shape
import ApiScribe.Package.Workspace

/-!
The settings of a run, with what holds when nothing is said.
-/

namespace ApiScribe

/-- What a program finds around it. -/
structure Environment where
  /-- The roots of packages, with colons between them. -/
  goPath : Option String := none
  /-- The root of the standard library. -/
  goRoot : Option String := none
  workingDir : String := "."
  deriving DecidableEq, Repr, Inhabited

structure Config where
  /-- The packages to scan, each with those below it. -/
  apiPackages : List String := []
  /-- The file with the directives for the document as a whole. -/
  mainApiFile : Option String := none
  /-- The pattern of the types whose methods are read; without it every function is. -/
  controllerClass : Option String := none
  /-- The pattern of the packages that are left out. -/
  ignore : String := "^$"
  vendoringPath : Option String := none
  disableVendoring : Bool := false
  searchPath : List String := []
  stdRoot : Option String := none
  workingDir : String := "."
  basePath : String := ""
  /-- Types that are written as primitives. -/
  marshalOverrides : Overrides := KeyMap.ofList
    [("NullString", "string"), ("NullInt64", "int"), ("NullFloat64", "float"), ("NullBool", "bool")]
  /-- Whether every type that is not found ends the run. -/
  strict : Bool := false
  language : Language := .go
  deriving Repr, Inhabited

namespace Config

def searchPaths (c : Config) (ignore : Option Pattern) : SearchPaths where
  roots := c.searchPath
  stdRoot := c.stdRoot
  vendoringPath := c.vendoringPath
  disableVendoring := c.disableVendoring
  entryPackages := c.apiPackages
  workingDir := c.workingDir
  ignore

/-- The roots that a search path with colons names. -/
def rootsOf (searchPath : Option String) : List String :=
  (searchPath.map (Text.splitOn ':')).getD []

/-- The settings that the environment gives; an empty root of the standard library is none. -/
def ofEnvironment (e : Environment) : Config where
  searchPath := rootsOf e.goPath
  stdRoot := e.goRoot.filter fun root => !root.isEmpty
  workingDir := e.workingDir

end Config

end ApiScribe
