import ApiScribe.Distinct
import ApiScribe.KeyMap
import ApiScribe.Package.Scan
import ApiScribe.Pattern.Read

/-!
What packages are looked up in, and what is remembered of them.  The first answer for a package is
kept: later changes of the files do not show.
-/

namespace ApiScribe

/-- Where packages are searched for. -/
structure SearchPaths where
  /-- Roots with packages below their directory `src`. -/
  roots : List String := []
  /-- The root of the standard library, with packages below `src` or `src/pkg`. -/
  stdRoot : Option String := none
  /-- A directory with packages that go before all others. -/
  vendoringPath : Option String := none
  /-- Whether the `vendor` directories of the entry packages are passed over. -/
  disableVendoring : Bool := false
  entryPackages : List String := []
  /-- The directory whose `vendor` directory is searched early. -/
  workingDir : String := ""
  /-- Packages whose ids match are left out. -/
  ignore : Option Pattern := none
  deriving Repr, Inhabited

/-- The files in which packages of one language are found. -/
structure Workspace where
  search : SearchPaths := {}
  language : Language := .go
  files : FileTree := {}
  deriving Repr, Inhabited

/-- The packages that each alias may stand for, in the order in which they are imported. -/
abbrev ImportTable := KeyMap (List String)

/-- What is known about packages.  The locations are the keys of all maps but the first. -/
structure Memory where
  /-- The location of a package id, or that it has none. -/
  locations : KeyMap (Option String) := ∅
  /-- The sources of a location. -/
  units : KeyMap (List SourceUnit) := ∅
  /-- The imports of a location by their aliases. -/
  imports : KeyMap ImportTable := ∅
  /-- The types that a location declares. -/
  types : KeyMap (KeyMap TypeDecl) := ∅
  deriving DecidableEq, Repr, Inhabited

/-- A computation that may fail and goes on remembering. -/
abbrev Session := ExceptT Error (StateM Memory)

namespace Workspace

variable (w : Workspace)

def isIgnored (id : String) : Bool := (w.search.ignore.map fun p => p.matchesText id).getD false

/-! ### Locations -/

/-- The path of a package below a root. -/
def relative (id : String) : String := String.ofList (Text.strip (· == '/') id.toList)

/-- The first of some paths that leads to a directory. -/
def firstDirectory (paths : List String) : Option String := paths.findSome? w.files.directory?

/-- Where a package is searched for before the entry packages are looked at. -/
def earlyPaths (id : String) : List String :=
  let rel := relative id
  (w.search.vendoringPath.map fun p => Path.join p rel).toList ++
    [Path.join (Path.join w.search.workingDir "vendor") rel]

/-- Where a package is searched for at last. -/
def latePaths (id : String) : List String :=
  let rel := relative id
  (w.search.roots.map fun root => Path.join (Path.join root "src") rel) ++
    (match w.search.stdRoot with
    | some root =>
      [Path.join (Path.join root "src") rel, Path.join (Path.join (Path.join root "src") "pkg") rel]
    | none => [])

/-- Remembers the answer for a package id, unless there is one already. -/
def remember (id : String) (search : StateM Memory (Option String)) :
    StateM Memory (Option String) := do
  match (← get).locations.get? id with
  | some found => return found
  | none =>
    let found ← search
    modify fun m => { m with locations := m.locations.insert id found }
    return found

def tryResolveEntry (id : String) : StateM Memory (Option String) :=
  remember id (pure (w.firstDirectory (w.earlyPaths id ++ w.latePaths id)))

/-- The first entry package whose directory of vendored packages holds the given one. -/
def vendored (rel : String) : List String → StateM Memory (Option String)
  | [] => pure none
  | entry :: entries => do
    match ← w.tryResolveEntry entry with
    | none => vendored rel entries
    | some location =>
      match w.files.directory? (Path.join (Path.join location "vendor") rel) with
      | some found => return some found
      | none => vendored rel entries

/-- The location of a package, if it has one. -/
def tryResolve (id : String) : StateM Memory (Option String) :=
  if w.search.entryPackages.contains id then w.tryResolveEntry id
  else remember id do
    match w.firstDirectory (w.earlyPaths id) with
    | some found => return some found
    | none =>
      let found ← if w.search.disableVendoring then pure none
        else w.vendored (relative id) w.search.entryPackages
      match found with
      | some found => return some found
      | none => return w.firstDirectory (w.latePaths id)

/-- The location of a package. -/
def resolve (id : String) : Session String := do
  match ← (w.tryResolve id : StateM Memory (Option String)) with
  | some location => return location
  | none => throw (.packageNotFound id)

/-- The package with the given id and those below it that are not ignored. -/
def discover (id : String) : Session (List String) := do
  let location ← w.resolve id
  match Package.scan w.files location id with
  | .ok ids => return ids.filter fun id => !w.isIgnored id
  | .error e => throw e

/-! ### Sources -/

def readFile (path : String) : Except Error SourceUnit :=
  match w.files.readText path with
  | .ok source => w.language.read path source
  | .error cause => .error (.io path cause)

/-- The sources in a directory; those that cannot be read are passed over. -/
def readPackage (path : String) : Except Error (List SourceUnit) :=
  (Package.sourceFiles w.files w.language path).map fun paths =>
    paths.filterMap fun p => (w.readFile p).toOption

/-- The sources in a directory, read once. -/
def loadPackage (path : String) : Session (List SourceUnit) := do
  match (← get).units.get? (Path.normal path) with
  | some units => return units
  | none =>
    match w.readPackage path with
    | .error e => throw e
    | .ok units =>
      modify fun m => { m with units := m.units.insert (Path.normal path) units }
      return units

/-! ### Imports -/

/-- The imports of some sources that are not ignored. -/
def importsOf (units : List SourceUnit) : List ImportDecl :=
  (units.flatMap (·.imports)).filter fun i => !w.isIgnored i.path

def addImport (table : ImportTable) (i : ImportDecl) : ImportTable :=
  table.insert i.localName (pushNew ((table.get? i.localName).getD []) i.path)

/-- Records the imports of a directory.  The first time, the imported packages are the answer. -/
def recordImports (path : String) : Session (List String) := do
  if (← get).imports.contains (Path.normal path) then return []
  let imports := w.importsOf (← w.loadPackage path)
  modify fun m => { m with
    imports := m.imports.insert (Path.normal path) (imports.foldl addImport ∅) }
  return (imports.map (·.path)).foldl pushNew []

/-! ### Types -/

/-- The types that some sources declare; of two with one name the later counts. -/
def typesOf (units : List SourceUnit) : KeyMap TypeDecl :=
  KeyMap.ofList ((units.flatMap (·.types)).map fun d => (d.name, d))

/-- Registers the types and the imports of a package.  The first time, the imported packages are the
answer. -/
def register (id : String) : Session (List String) := do
  let location ← w.resolve id
  if (← get).types.contains (Path.normal location) then return []
  let types := typesOf (← w.loadPackage location)
  modify fun m => { m with types := m.types.insert (Path.normal location) types }
  w.recordImports location

/-- Registers a package unless its location has been registered. -/
def registerOnce (id location : String) : Session Unit := do
  if !(← get).types.contains (Path.normal location) then
    let _ ← w.register id

end Workspace

namespace Memory

def isRegistered (m : Memory) (location : String) : Bool := m.types.contains (Path.normal location)

def type? (m : Memory) (location name : String) : Option TypeDecl :=
  (m.types.get? (Path.normal location)).bind fun types => types.get? name

/-- The imports of a location by their aliases. -/
def importTable? (m : Memory) (location : String) : Option ImportTable :=
  m.imports.get? (Path.normal location)

/-- The packages that an alias may stand for at a location. -/
def candidates? (m : Memory) (location name : String) : Option (List String) :=
  (m.importTable? location).bind fun table => table.get? name

end Memory

end ApiScribe
