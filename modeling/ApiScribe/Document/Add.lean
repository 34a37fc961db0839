import ApiScribe.Document.Basic
import ApiScribe.Operation.Draft

/-!
Adding operations to a document.  An operation goes to the resource that it names, or else to the
first segment of its path; a resource comes into being with its first operation, and of two
operations with one path and method the first stays.
-/

namespace ApiScribe

/-- The resource of a draft: the one that it names, or the first segment of its path. -/
def Draft.resourceName? (d : Draft) : Option String :=
  match d.resource with
  | some name => some name
  | none => (Text.splitOn '/' d.operation.path).find? fun segment => !segment.isEmpty

/-- A draft without its models. -/
def Draft.emptied (d : Draft) : Draft := { d with models := [] }

@[simp] theorem Draft.operation_emptied (d : Draft) : d.emptied.operation = d.operation := rfl

namespace ApiDeclaration

/-- Takes over the content types and the models of a draft.  What is already known stays. -/
def absorb (decl : ApiDeclaration) (d : Draft) : ApiDeclaration :=
  { decl with
    consumes := d.operation.consumes.foldl pushNew decl.consumes
    produces := d.operation.produces.foldl pushNew decl.produces
    models := d.models.foldl (fun ms m => ms.insertNew m.id m) decl.models }

end ApiDeclaration

namespace Api

/-- Adds an operation, unless there is one with its method. -/
def push (api : Api) (d : Draft) : Api :=
  if api.operations.any (·.operation.httpMethod == d.operation.httpMethod) then api
  else { api with operations := api.operations ++ [d] }

/-- Adds an operation to the entry of its path, which comes into being if there is none. -/
def pushTo (d : Draft) : List Api → List Api
  | [] => [{ path := d.operation.path, operations := [d] }]
  | api :: apis =>
    if api.path = d.operation.path then api.push d :: apis else api :: pushTo d apis

end Api

namespace ResourceListing

/-- Lists a resource, unless it is listed. -/
def addRef (listing : ResourceListing) (path description : String) : ResourceListing :=
  if listing.apis.any (·.path == path) then listing
  else { listing with apis := listing.apis ++ [{ path, description }] }

/-- The declaration that a resource starts with. -/
def declare (listing : ResourceListing) (resourcePath : String) : ApiDeclaration where
  apiVersion := listing.apiVersion
  basePath := listing.basePath
  resourcePath := resourcePath

end ResourceListing

namespace Document

/-- Adds an operation to a given resource.  Its models go to the declaration, and it stays without
them. -/
def addTo (doc : Document) (d : Draft) (resource : String) : Document :=
  let path := "/" ++ resource
  let decl := ((doc.apis.get? resource).getD (doc.listing.declare path)).absorb d
  { listing := doc.listing.addRef path d.operation.summary
    apis := doc.apis.insert resource { decl with apis := Api.pushTo d.emptied decl.apis } }

/-- Adds an operation; it must belong to some resource. -/
def add (doc : Document) (d : Draft) : Except Error Document :=
  match d.resourceName? with
  | some resource => .ok (doc.addTo d resource)
  | none => .error (.malformedDirective ("@Router " ++ d.operation.path) "route has no resource")

end Document

end ApiScribe
