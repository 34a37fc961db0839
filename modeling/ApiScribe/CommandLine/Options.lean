import ApiScribe.Document.Encode
import ApiScribe.Generation.Config

/-!
What a command line can set, and how one word after the other sets it.  Flags stand alone and
settings take a value; all of them are given at most once, except for packages and overrides, which
add up.  What is not given comes from the environment or has a default.
-/

namespace ApiScribe.CommandLine

/-- What takes no value. -/
inductive Flag where
  | disableVendoring
  | strict
  | verbose
  | help
  | version
  deriving DecidableEq, Repr, Inhabited

/-- What takes a value. -/
inductive Setting where
  | apiPackage
  | mainApiFile
  | controllerClass
  | ignore
  | vendoringPath
  | goPath
  | goRoot
  | basePath
  | marshalOverride
  | language
  | format
  | output
  deriving DecidableEq, Repr, Inhabited

/-- Why a command line is not carried out. -/
inductive Refusal where
  /-- No package is given. -/
  | missingArgument
  | unknownArgument
  /-- A value is missing, or none of those that are allowed. -/
  | invalidValue
  /-- An override is no pair. -/
  | invalidOverride
  /-- Something is given twice. -/
  | repeated
  /-- A flag has a value. -/
  | unexpectedValue
  /-- Only help is asked for. -/
  | help
  /-- Only the version is asked for. -/
  | version
  deriving DecidableEq, Repr, Inhabited

structure Options where
  apiPackages : List String := []
  mainApiFile : Option String := none
  controllerClass : Option String := none
  ignore : Option String := none
  vendoringPath : Option String := none
  disableVendoring : Bool := false
  goPath : Option String := none
  goRoot : Option String := none
  basePath : Option String := none
  marshalOverrides : List (String × String) := []
  strict : Bool := false
  language : Option Language := none
  format : Option Document.Format := none
  /-- The file for the document, which is printed otherwise. -/
  output : Option String := none
  verbose : Bool := false
  deriving DecidableEq, Repr, Inhabited

/-! ### Values -/

/-- A path, which must not be empty. -/
def pathOf (value : String) : Except Refusal String :=
  if value.isEmpty then .error .invalidValue else .ok value

def languageOf (value : String) : Except Refusal Language :=
  match value with
  | "go" => .ok .go
  | "rust" => .ok .rust
  | _ => .error .invalidValue

def formatOf (value : String) : Except Refusal Document.Format :=
  match value with
  | "json" => .ok .json
  | "yaml" => .ok .yaml
  | _ => .error .invalidValue

/-- A name and a primitive with `=` between them; both count without the blanks around them, and
neither may be empty. -/
def overrideOf (value : String) : Except Refusal (String × String) :=
  match Text.cutFirst (· == '=') value.toList with
  | none => .error .invalidOverride
  | some (name, kind) =>
    if (Text.trim name).isEmpty || (Text.trim kind).isEmpty then .error .invalidOverride
    else .ok (String.ofList (Text.trim name), String.ofList (Text.trim kind))

/-- A value for what may be given once. -/
def once (old : Option α) (new : Except Refusal α) : Except Refusal (Option α) :=
  if old.isSome then .error .repeated else some <$> new

/-- A flag, which may be given once. -/
def raise (old : Bool) : Except Refusal Bool := if old then .error .repeated else .ok true

namespace Options

def setFlag (o : Options) : Flag → Except Refusal Options
  | .disableVendoring => do return { o with disableVendoring := ← raise o.disableVendoring }
  | .strict => do return { o with strict := ← raise o.strict }
  | .verbose => do return { o with verbose := ← raise o.verbose }
  | .help => .error .help
  | .version => .error .version

def set (o : Options) (value : String) : Setting → Except Refusal Options
  | .apiPackage => .ok { o with apiPackages := o.apiPackages ++ Text.splitOn ',' value }
  | .mainApiFile => do return { o with mainApiFile := ← once o.mainApiFile (pathOf value) }
  | .controllerClass => do return { o with controllerClass := ← once o.controllerClass (.ok value) }
  | .ignore => do return { o with ignore := ← once o.ignore (.ok value) }
  | .vendoringPath => do return { o with vendoringPath := ← once o.vendoringPath (pathOf value) }
  | .goPath => do return { o with goPath := ← once o.goPath (.ok value) }
  | .goRoot => do return { o with goRoot := ← once o.goRoot (pathOf value) }
  | .basePath => do return { o with basePath := ← once o.basePath (.ok value) }
  | .marshalOverride => do
    return { o with marshalOverrides := o.marshalOverrides ++ [← overrideOf value] }
  | .language => do return { o with language := ← once o.language (languageOf value) }
  | .format => do return { o with format := ← once o.format (formatOf value) }
  | .output => do return { o with output := ← once o.output (pathOf value) }

/-- Takes what is not given from the environment.  A package has to be given. -/
def complete (o : Options) (e : Environment) : Except Refusal Options := do
  let goRoot ← match o.goRoot, e.goRoot with
    | none, some root => some <$> pathOf root
    | given, _ => pure given
  if o.apiPackages.isEmpty then .error .missingArgument
  else return { o with goPath := o.goPath.or e.goPath, goRoot }

/-- The settings of a run; overrides are added to those that always hold. -/
def config (o : Options) (workingDir : String) : Config where
  apiPackages := o.apiPackages
  mainApiFile := o.mainApiFile
  controllerClass := o.controllerClass
  ignore := o.ignore.getD ({} : Config).ignore
  vendoringPath := o.vendoringPath
  disableVendoring := o.disableVendoring
  searchPath := Config.rootsOf o.goPath
  stdRoot := o.goRoot.filter fun root => !root.isEmpty
  workingDir
  basePath := o.basePath.getD ({} : Config).basePath
  marshalOverrides :=
    o.marshalOverrides.foldl (fun m (name, kind) => m.insert name kind)
      ({} : Config).marshalOverrides
  strict := o.strict
  language := o.language.getD .go

def outputFormat (o : Options) : Document.Format := o.format.getD .json

end Options

end ApiScribe.CommandLine
