import ApiScribe.Document.Add
import ApiScribe.Document.Info
import ApiScribe.Generation.Config
import ApiScribe.Model.Resolve

/-!
Generating a document: the packages are scanned, their types registered, and the comments of their
functions read into operations.

An entry package that is not found ends the run.  A type that is not found ends it too if it is named
in an entry package, or if the run is strict; otherwise it only costs the operation.
-/

namespace ApiScribe

structure ScannedPackage where
  id : String
  /-- Whether the package was asked for by its id. -/
  isEntry : Bool
  deriving DecidableEq, Repr, Inhabited

/-- What stays the same during a run. -/
structure Generator where
  config : Config := {}
  workspace : Workspace := {}
  /-- The types whose methods are read. -/
  controller : Option Pattern := none
  deriving Repr, Inhabited

/-- How far a run has come. -/
structure Progress where
  memory : Memory := {}
  document : Document := {}
  scanned : List ScannedPackage := []
  deriving DecidableEq, Repr, Inhabited

/-- A part of a run. -/
abbrev Run := ExceptT Error (StateM Progress)

namespace Run

/-- Does something with the memory of a run. -/
def remembering (x : Session α) : Run α := fun p =>
  let (r, memory) := x p.memory
  (r, { p with memory })

/-- Changes the document, unless that fails. -/
def change (f : Document → Except Error Document) : Run Unit :=
  modify fun p => match f p.document with
    | .ok document => { p with document }
    | .error _ => p

end Run

namespace Generator

/-- Prepares a run; the patterns of the settings must be patterns. -/
def ofConfig (config : Config) (files : FileTree) : Except Error Generator := do
  let pattern (s : String) : Except Error Pattern :=
    match Pattern.read? s with
    | some p => .ok p
    | none => .error .invalidPattern
  let ignore ← pattern config.ignore
  let controller ← match config.controllerClass with
    | some s => some <$> pattern s
    | none => pure none
  return {
    config
    workspace := { search := config.searchPaths (some ignore), language := config.language, files }
    controller }

variable (g : Generator)

/-- How a run begins. -/
def start : Progress := { document := Document.start g.config.basePath }

/-! ### The document as a whole -/

/-- The file with the directives for the document as a whole: the one that is set, or else the file
that opens the first entry package. -/
def mainApiFile : StateM Progress (Option String) := do
  match g.config.mainApiFile, g.config.apiPackages with
  | some path, _ => return some (Path.join g.config.workingDir path)
  | none, [] => return none
  | none, entry :: _ =>
    let p ← get
    let (location, memory) := g.workspace.tryResolve entry p.memory
    set { p with memory }
    return (location.map fun l => Path.join l g.config.language.entryFile).filter
      g.workspace.files.isFile

/-- Whether a comment line describes a resource. -/
def isSubApi (line : String) : Bool := line.startsWith "@SubApi"

def applyInfoLine (doc : Document) (line : String) : Document :=
  if isSubApi line then
    match doc.applySubApi line with
    | .ok doc => doc
    | .error _ => doc
  else doc.applyInfo line

/-- Reads the directives for the document as a whole. -/
def readInfo (path : String) : Run Unit := do
  match g.workspace.readFile path with
  | .error e => throw e
  | .ok u => modify fun p => { p with document := u.comments.foldl applyInfoLine p.document }

/-! ### Scanning -/

/-- Adds a package, unless it has been found before. -/
def addScanned (scanned : List ScannedPackage) (id : String) : List ScannedPackage :=
  if scanned.any (·.id == id) then scanned
  else scanned ++ [{ id, isEntry := g.config.apiPackages.contains id }]

def scanFrom : List String → Run Unit
  | [] => return ()
  | entry :: entries => do
    if g.workspace.isIgnored entry then scanFrom entries
    else
      let ids ← Run.remembering (g.workspace.discover entry)
      modify fun p => { p with scanned := ids.foldl g.addScanned p.scanned }
      scanFrom entries

def scan : Run Unit := g.scanFrom g.config.apiPackages

/-! ### Registering types -/

/-- Registers the packages of a queue, up to the first that imports anything; `more` goes on with the
packages behind it and those that it imports.  Of the queue only `root` has to be found. -/
def drain (more : List String → Session Unit) (root : String) : List String → Session Unit
  | [] => return ()
  | id :: queue => do
    let found ← if id = root then pure true
      else (·.isSome) <$> (g.workspace.tryResolve id : StateM Memory (Option String))
    if !found then drain more root queue
    else
      match ← g.workspace.register id with
      | [] => drain more root queue
      | imports => more (queue ++ imports)

/-- Registers the packages of a queue and all that they import; at most `directories` of them are
new. -/
def registerAll (root : String) : Nat → List String → Session Unit
  | 0 => g.drain (fun _ => throw .endless) root
  | directories + 1 => g.drain (registerAll root directories) root

/-- Registers the types of a package and of all that it imports, directly or through others. -/
def registerTypes (id : String) : Session Unit :=
  g.registerAll id g.workspace.files.root.directories [id]

/-! ### Reading operations -/

/-- Whether the comment of a function is read. -/
def isController (f : FunctionDecl) : Bool :=
  match g.controller with
  | none => true
  | some pattern => (f.receiver.map pattern.matchesText).getD false

/-- Whether an error in the comment of a function ends the run. -/
def isFatal (package : ScannedPackage) (e : Error) : Bool :=
  g.config.strict || package.isEntry || !e.isResolution

def readComment (package : ScannedPackage) (f : FunctionDecl) :
    StateM Memory (Except Error Unit × Draft) :=
  Draft.applyComment (g.workspace.lookupTypes g.config.marshalOverrides) (Draft.start package.id)
    f.doc

/-- Records in the document what the comment of a function has come to.  Comments without directives
or route are passed over, and so are operations that cannot be added. -/
def record (package : ScannedPackage) (f : FunctionDecl) : Except Error Unit × Draft → Run Unit
  | (.ok (), draft) =>
    if draft.operation.path.isEmpty then return () else Run.change (·.add draft)
  | (.error .noDirectives, _) => return ()
  | (.error e, _) => do
    let e := Error.inFunction f.name package.id e
    if g.isFatal package e then throw e

def describeFunction (package : ScannedPackage) (f : FunctionDecl) : Run Unit := do
  g.record package f (← Run.remembering (g.readComment package f : StateM Memory _))

def describeFunctions (package : ScannedPackage) : List FunctionDecl → Run Unit
  | [] => return ()
  | f :: fs => do
    if g.isController f then g.describeFunction package f
    describeFunctions package fs

/-- The sources of a package. -/
def load (package : ScannedPackage) : Run (List SourceUnit) :=
  Run.remembering do g.workspace.loadPackage (← g.workspace.resolve package.id)

/-- Reads the functions in some sources of a package, and the comment lines that describe resources. -/
def describeUnits (package : ScannedPackage) (units : List SourceUnit) : Run Unit := do
  g.describeFunctions package (units.flatMap (·.functions))
  modify fun p => { p with
    document := ((units.flatMap (·.comments)).filter isSubApi).foldl applyInfoLine p.document }

/-- Reads the functions of a package, and the comment lines that describe resources. -/
def describe (package : ScannedPackage) : Run Unit := do
  let units ← g.load package
  g.describeUnits package units

/-! ### The whole run -/

/-- Registers the types of some packages. -/
def registerScanned : List ScannedPackage → Run Unit
  | [] => return ()
  | package :: packages => do
    Run.remembering (g.registerTypes package.id)
    registerScanned packages

/-- Reads the functions of some packages, each as `describe` does. -/
def describeScanned (describe : ScannedPackage → Run Unit) : List ScannedPackage → Run Unit
  | [] => return ()
  | package :: packages => do
    describe package
    describeScanned describe packages

/-- Scans and registers all packages, and reads each as `describe` does. -/
def readApiBy (describe : ScannedPackage → Run Unit) : Run Unit := do
  g.scan
  let scanned := (← get).scanned
  g.registerScanned scanned
  describeScanned describe scanned

def readApi : Run Unit := g.readApiBy g.describe

def readMain : Run Unit := do
  match ← (g.mainApiFile : StateM Progress (Option String)) with
  | some path => g.readInfo path
  | none => pure ()

/-- Reads the main file, and then all packages as `describe` does. -/
def runBy (describe : ScannedPackage → Run Unit) : Run Unit := do
  g.readMain
  g.readApiBy describe

/-- Reads the main file, if there is one, and then all packages. -/
def run : Run Unit := g.runBy g.describe

def documentBy (describe : ScannedPackage → Run Unit) : Except Error Document :=
  match (g.runBy describe).run g.start with
  | (.ok (), p) => .ok p.document
  | (.error e, _) => .error e

def document : Except Error Document := g.documentBy g.describe

end Generator

end ApiScribe
