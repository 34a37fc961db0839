import ApiScribe.CommandLine.Options
import ApiScribe.Files.Write
import ApiScribe.Generation.Run

/-!
Carrying out a command line on a tree of files: the document is generated, and then printed or saved.
-/

namespace ApiScribe.CommandLine

/-- Why a command line could not be carried out. -/
inductive Failure where
  /-- All packages are blank. -/
  | blankPackages
  | missingMainFile (path : String)
  /-- A pattern is none. -/
  | settings (e : Error)
  /-- The main file could not be read. -/
  | mainFile (path : String) (e : Error)
  | generation (e : Error)
  | save (f : SaveFailure)
  deriving DecidableEq, Repr, Inhabited

/-- The texts of a failure, from the attempt down to its cause. -/
def Failure.messages : Failure → List String
  | blankPackages => ["At least one API package is required"]
  | missingMainFile path => ["Main API file does not exist: " ++ path]
  | settings e => ["Invalid configuration", e.message]
  | mainFile path e => ["Failed to read general API info from " ++ path, e.message]
  | generation e => ["Failed to generate the API document", e.message]
  | save f => f.messages

/-- What a command line leaves behind. -/
structure Outcome where
  files : FileTree
  printed : String := ""
  deriving Repr, Inhabited

/-- Does a part of a run. -/
def advance (why : Error → Failure) (x : Run Unit) (p : Progress) : Except Failure Progress :=
  match x.run.run p with
  | (.ok (), p) => .ok p
  | (.error e, _) => .error (why e)

namespace Options

variable (o : Options)

/-- Looks for what can be seen before a run: that some package is not blank, and that the main file
is a file. -/
def check (files : FileTree) : Except Failure Unit :=
  if o.apiPackages.all fun p => (Text.trimmed p).isEmpty then .error .blankPackages
  else match o.mainApiFile with
    | none => .ok ()
    | some path => if files.isFile path then .ok () else .error (.missingMainFile path)

def document (files : FileTree) (workingDir : String) : Except Failure Document := do
  let g ← (Generator.ofConfig (o.config workingDir) files).mapError .settings
  let (path, p) := g.mainApiFile.run g.start
  let p ← match path with
    | none => pure p
    | some path => advance (.mainFile path) (g.readInfo path) p
  return (← advance .generation g.readApi p).document

/-- Generates the document, and saves or prints it. -/
def run (files : FileTree) (workingDir : String) : Except Failure Outcome := do
  o.check files
  let text := (← o.document files workingDir).text o.outputFormat
  match o.output with
  | some path => return { files := ← (files.save path text).mapError .save }
  | none => return { files, printed := text ++ "\n" }

end Options

end ApiScribe.CommandLine
