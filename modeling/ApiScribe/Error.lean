/-!
What can go wrong between a source comment and an API document, each cause with its message, and the
two classes of causes that are treated leniently.
-/

namespace ApiScribe

/-- Why a file could not be read or written. -/
inductive IOCause where
  | notFound
  | permissionDenied
  | notADirectory
  | isADirectory
  | alreadyExists
  | invalidData
  /-- Any other cause, by its text. -/
  | other (text : String)
  deriving DecidableEq, Repr, Inhabited

def IOCause.message : IOCause → String
  | notFound => "NotFound"
  | permissionDenied => "PermissionDenied"
  | notADirectory => "NotADirectory"
  | isADirectory => "IsADirectory"
  | alreadyExists => "AlreadyExists"
  | invalidData => "InvalidData"
  | other text => text

inductive Error where
  /-- A package is on no search root. -/
  | packageNotFound (package : String)
  /-- A type name is not declared where it was looked up from. -/
  | modelNotFound (model package : String)
  /-- The package imports nothing under the alias of a qualified name. -/
  | importNotFound (name package : String)
  /-- A directive line breaks its grammar. -/
  | malformedDirective (directive reason : String)
  /-- A comment holds no directive. -/
  | noDirectives
  /-- An error while one directive is applied. -/
  | inDirective (directive : String) (source : Error)
  /-- An error while the comment of one function is read. -/
  | inFunction (function package : String) (source : Error)
  /-- A file could not be read. -/
  | io (path : String) (cause : IOCause)
  /-- A source file is no text of its language. -/
  | parse (file detail : String)
  /-- An argument has no meaning. -/
  | invalidArgument (detail : String)
  /-- The types refer to each other without end. -/
  | endless
  /-- A pattern is no regular expression. -/
  | invalidPattern
  deriving DecidableEq, Repr, Inhabited

namespace Error

def message : Error → String
  | packageNotFound package => "package '" ++ package ++ "' not found on any search root"
  | modelNotFound model package =>
    "model '" ++ model ++ "' not found from package '" ++ package ++ "'"
  | importNotFound name package => "package '" ++ package ++ "' has no import named '" ++ name ++ "'"
  | malformedDirective directive reason =>
    "malformed directive '" ++ directive ++ "': " ++ reason
  | noDirectives => "no directives found"
  | inDirective directive source => "directive '" ++ directive ++ "': " ++ source.message
  | inFunction function package source =>
    "function " ++ function ++ " in package '" ++ package ++ "': " ++ source.message
  | io path cause => "IO error on " ++ path ++ ": " ++ cause.message
  | parse file detail =>
    if detail.isEmpty then "parse error in " ++ file
    else "parse error in " ++ file ++ ": " ++ detail
  | invalidArgument detail => "invalid argument: " ++ detail
  | endless => "types refer to each other without end"
  | invalidPattern => "invalid argument: invalid regular expression"

/-- Errors about a package or a type that was not found, at any depth. -/
def isResolution : Error → Bool
  | packageNotFound _ | modelNotFound _ _ | importNotFound _ _ => true
  | inDirective _ source | inFunction _ _ source => source.isResolution
  | _ => false

/-- Errors about the grammar of a directive. -/
def isMalformed : Error → Bool
  | malformedDirective _ _ => true
  | _ => false

/-- The error itself and those it reports from further down, from the outside in. -/
def layers : Error → List Error
  | inDirective d source => inDirective d source :: source.layers
  | inFunction f p source => inFunction f p source :: source.layers
  | e => [e]

/-- The messages of the sources below an error, down to the cause of a failed read. -/
def sources : Error → List String
  | inDirective _ source | inFunction _ _ source => source.message :: source.sources
  | io _ cause => [cause.message]
  | _ => []

end Error

end ApiScribe
