import ApiScribe.Source.Unit

/-!
Trees of imports: paths that share their beginnings.  A tree stands for the list of its leaves, each
with the path from the root.
-/

namespace ApiScribe

inductive UseTree where
  /-- A segment and what follows it. -/
  | path (segment : String) (tree : UseTree)
  | name (segment : String)
  | renamed (segment newName : String)
  | group (trees : List UseTree)
  /-- All that a package holds. -/
  | glob
  deriving Repr, Inhabited

/-- The segments of a package id: those of a path without a leading `crate` or `self`.  A path that
starts with `super` has none. -/
def packageSegments? : List String → Option (List String)
  | "super" :: _ => none
  | "crate" :: segments => some segments
  | "self" :: segments => some segments
  | segments => some segments

namespace UseTree

def importOf (segments : List String) (newName : Option String) : List ImportDecl :=
  match packageSegments? segments with
  | none | some [] => []
  | some segments => [{ path := "/".intercalate segments, givenName := newName }]

/-- A path and one more segment; `self` stands for the path itself. -/
def extend (before : List String) (segment : String) : List String :=
  if segment = "self" then before else before ++ [segment]

mutual

/-- The imports that a tree stands for behind a path. -/
def imports (before : List String) : UseTree → List ImportDecl
  | path segment tree => imports (before ++ [segment]) tree
  | name segment => importOf (extend before segment) none
  | renamed segment newName => importOf (extend before segment) (some newName)
  | group trees => importsOfAll before trees
  | glob => []

def importsOfAll (before : List String) : List UseTree → List ImportDecl
  | [] => []
  | tree :: trees => imports before tree ++ importsOfAll before trees

end

end UseTree

end ApiScribe
