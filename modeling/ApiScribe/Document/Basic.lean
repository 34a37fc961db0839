import ApiScribe.Operation.Basic

/-!
The API document: a listing of resources, and for each resource a declaration with its routes,
operations and models.
-/

namespace ApiScribe

def formatVersion : String := "1.2"

/-- A resource in the listing. -/
structure ApiRef where
  path : String
  description : String
  deriving DecidableEq, Repr, Inhabited

/-- What the listing says about the API as a whole. -/
structure Info where
  title : String := ""
  description : String := ""
  contact : String := ""
  termsOfServiceUrl : String := ""
  license : String := ""
  licenseUrl : String := ""
  deriving DecidableEq, Repr, Inhabited

structure ResourceListing where
  apiVersion : String := ""
  swaggerVersion : String := formatVersion
  basePath : String := ""
  apis : List ApiRef := []
  info : Info := {}
  deriving DecidableEq, Repr, Inhabited

/-- The operations on one path. -/
structure Api where
  path : String
  description : String := ""
  operations : List Draft := []
  deriving DecidableEq, Repr, Inhabited

/-- All that is known about one resource. -/
structure ApiDeclaration where
  apiVersion : String := ""
  swaggerVersion : String := formatVersion
  basePath : String := ""
  resourcePath : String := ""
  consumes : List String := []
  produces : List String := []
  apis : List Api := []
  /-- The models of the operations by their ids. -/
  models : KeyMap Model := ∅
  deriving DecidableEq, Repr, Inhabited

structure Document where
  listing : ResourceListing := {}
  /-- The declarations by the names of their resources. -/
  apis : KeyMap ApiDeclaration := ∅
  deriving DecidableEq, Repr, Inhabited

namespace Document

def start (basePath : String) : Document := { listing := { basePath } }

def resource? (d : Document) (name : String) : Option ApiDeclaration := d.apis.get? name

end Document

end ApiScribe
