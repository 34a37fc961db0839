import ApiScribe.Document.Basic
import ApiScribe.Operation.Directive
import ApiScribe.Text.Category

/-!
Lines that describe the document as a whole: the directives of the general information, and the
lines `@SubApi label [path]` that describe a listed resource.
-/

namespace ApiScribe

/-- A resource described by a `@SubApi` line. -/
structure SubApi where
  description : String
  path : String
  deriving DecidableEq, Repr

namespace SubApi

/-- A character of the bracketed path. -/
def isPathChar (c : Char) : Bool := Text.isWordChar c || c == '-' || c == '/'

def dropWord : List Char → List Char → Option (List Char)
  | [], cs => some cs
  | w :: ws, c :: cs => if w = c then dropWord ws cs else none
  | _ :: _, [] => none

/-- Reads a trimmed line.  Between the tag and the bracket stand a blank and at least one more
character. -/
def readTrimmed? (cs : List Char) : Option SubApi := do
  let rest ← dropWord "@SubApi".toList cs
  let (label, path) ← Text.cutFirst (· == '[') rest
  let blank ← label.head?
  guard (Text.isBlank blank && 2 ≤ label.length)
  let name := path.takeWhile isPathChar
  guard (!name.isEmpty && (path.dropWhile isPathChar).head? == some ']')
  return {
    description := String.ofList (Text.trim label)
    path := String.ofList ('/' :: name.dropWhile (· == '/')) }

def read? (line : String) : Option SubApi := readTrimmed? (Text.trim line.toList)

end SubApi

namespace ResourceListing

/-- Replaces the description of the first resource with the given path. -/
def redescribe (s : SubApi) : List ApiRef → List ApiRef
  | [] => [{ path := s.path, description := s.description }]
  | r :: rs =>
    if r.path = s.path then { r with description := s.description } :: rs
    else r :: redescribe s rs

end ResourceListing

namespace Document

/-- Describes a listed resource; one that is not listed is appended. -/
def describe (doc : Document) (s : SubApi) : Document :=
  { doc with listing.apis := ResourceListing.redescribe s doc.listing.apis }

def applySubApi (doc : Document) (line : String) : Except Error Document :=
  match SubApi.read? line with
  | some s => .ok (doc.describe s)
  | none => .error (.malformedDirective (Text.trimmed line) "expected a label and a [path]")

/-- Sets the part of the listing that a tag stands for; other tags stand for none. -/
def setInfo (listing : ResourceListing) (tag value : String) : ResourceListing :=
  match tag with
  | "@APIVersion" => { listing with apiVersion := value }
  | "@APITitle" | "@Title" => { listing with info.title := value }
  | "@APIDescription" | "@Description" => { listing with info.description := value }
  | "@TermsOfServiceUrl" => { listing with info.termsOfServiceUrl := value }
  | "@Contact" => { listing with info.contact := value }
  | "@License" => { listing with info.license := value }
  | "@LicenseUrl" => { listing with info.licenseUrl := value }
  | "@BasePath" => { listing with basePath := value }
  | _ => listing

/-- Applies a line of the general information. -/
def applyInfo (doc : Document) (line : String) : Document :=
  match Directive.split? (Text.trim line.toList) with
  | some (tag, value) =>
    { doc with listing := setInfo doc.listing (String.ofList tag) (String.ofList value) }
  | none => doc

end Document

end ApiScribe
