import ApiScribe.CommandLine.Arguments
import ApiScribe.CommandLine.Run

/-!
The command.  It sees the files whose paths stand on standard input, one a line; a path with a slash
at its end is a directory.
-/

namespace ApiScribe.CommandLine

partial def readLines (input : IO.FS.Stream) : IO (List String) := do
  let line ← input.getLine
  if line.isEmpty then return []
  return (String.ofList (Text.dropEnd (· == '\n') line.toList)) :: (← readLines input)

def readEntry (path : String) : IO Entry := do
  if path.endsWith "/" then return .dir []
  let bytes ← IO.FS.readBinFile path
  return match String.fromUTF8? bytes with
    | some content => .text content
    | none => .binary

/-- The files at some paths, as seen from a directory. -/
def readFiles (workingDir : String) (paths : List String) : IO FileTree := do
  let start : FileTree := { here := Path.segments workingDir }
  (workingDir :: paths).foldlM (fun t path => do
    let e ← if path = workingDir then pure (.dir []) else readEntry path
    return t.put (Path.segments (Path.join workingDir path)) e) start

def usage : String :=
  "apiscribe --api-package PACKAGE [--main-api-file FILE] [--controller-class REGEX] " ++
    "[--ignore REGEX] [--vendoring-path DIR] [--disable-vendoring] [--gopath PATHS] " ++
    "[--goroot DIR] [--base-path URL] [--marshal-override NAME=KIND] [--strict] " ++
    "[-l go|rust] [-f json|yaml] [-o FILE] [-v]"

def Refusal.message : Refusal → String
  | .missingArgument => "a package is required"
  | .unknownArgument => "unknown argument"
  | .invalidValue => "invalid value"
  | .invalidOverride => "an override is NAME=KIND"
  | .repeated => "an argument is given twice"
  | .unexpectedValue => "a flag takes no value"
  | .help => usage
  | .version => "apiscribe 0.1.0"

def Refusal.status : Refusal → UInt32
  | .help | .version => 0
  | _ => 2

/-- Writes the file that a run has saved. -/
def writeSaved (o : Options) (files : FileTree) : IO Unit := do
  match o.output with
  | none => return ()
  | some path =>
    if let some parent := Path.parent? path then
      if !parent.isEmpty then IO.FS.createDirAll parent
    if let .ok content := files.readText path then IO.FS.writeFile path content

def execute (args : List String) : IO UInt32 := do
  let workingDir := toString (← IO.currentDir)
  let e : Environment :=
    { goPath := ← IO.getEnv "GOPATH", goRoot := ← IO.getEnv "GOROOT", workingDir }
  match read args e with
  | .error why =>
    (if why.status = 0 then IO.println else IO.eprintln) why.message
    return why.status
  | .ok o =>
    let files ← readFiles workingDir (← readLines (← IO.getStdin))
    match o.run files workingDir with
    | .error f =>
      IO.eprintln ("\n".intercalate f.messages)
      return 1
    | .ok done =>
      writeSaved o done.files
      IO.print done.printed
      return 0

end ApiScribe.CommandLine

def main (args : List String) : IO UInt32 := ApiScribe.CommandLine.execute args
