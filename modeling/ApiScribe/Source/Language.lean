import ApiScribe.Error
import ApiScribe.Files.Path
import ApiScribe.Source.GoUnit
import ApiScribe.Source.RustUnit

/-!
The languages of sources: which files belong to a package, which of them opens it, and how a file is
read.
-/

namespace ApiScribe.Language

def name : Language → String
  | go => "Go"
  | rust => "Rust"

/-- The file with the directives for the document as a whole, unless another is named. -/
def entryFile : Language → String
  | go => "main.go"
  | rust => "lib.rs"

/-- Whether a file of this name belongs to its package.  Tests and hidden files do not. -/
def ownsName (l : Language) (name : String) : Bool :=
  match l with
  | go => name.endsWith ".go" && !name.endsWith "_test.go" && !name.startsWith "." &&
      !name.startsWith "_"
  | rust => name.endsWith ".rs" && !name.startsWith "." && name != "build.rs"

/-- Whether the file at a path belongs to its package. -/
def owns (l : Language) (path : String) : Bool := ((Path.fileName? path).map l.ownsName).getD false

def read (l : Language) (path source : String) : Except Error SourceUnit :=
  match l with
  | go => .ok (GoUnit.read path source)
  | rust => RustUnit.read path source

end ApiScribe.Language
