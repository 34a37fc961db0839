import ApiScribe.Source.UseTree

/-!
Trees of imports walked in place.  `UseTree.imports` hands the path before a tree down to it.  Here one
path serves the whole walk: it is longer by a segment while the walk is below that segment.  The
imports are added to one list.
-/

namespace ApiScribe.UseTree

structure Walk where
  /-- The segments from the root to where the walk is. -/
  before : List String := []
  found : List ImportDecl := []
  deriving DecidableEq, Repr

/-- Adds the import of a path, if it is the path of a package. -/
def addImport (segments : List String) (newName : Option String) : StateM Walk Unit := do
  match packageSegments? segments with
  | none => return
  | some segments =>
    if segments.isEmpty then
      return
    modify fun s =>
      { s with found := s.found ++ [{ path := "/".intercalate segments, givenName := newName }] }

mutual

def walk : UseTree → StateM Walk Unit
  | path segment tree => do
    modify fun s => { s with before := s.before ++ [segment] }
    walk tree
    modify fun s => { s with before := s.before.dropLast }
  | name segment => do
    addImport (extend (← get).before segment) none
  | renamed segment newName => do
    addImport (extend (← get).before segment) (some newName)
  | group trees => walkAll trees
  | glob => return

def walkAll : List UseTree → StateM Walk Unit
  | [] => return
  | tree :: trees => do
    walk tree
    walkAll trees

end

end ApiScribe.UseTree
