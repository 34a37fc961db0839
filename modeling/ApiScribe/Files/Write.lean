import ApiScribe.Files.Tree
import ApiScribe.KeyMap

/-!
Changing a tree of files: making directories, writing files, and both together.
-/

namespace ApiScribe

namespace Entry

/-- Puts an entry at a place below, with the directories that are needed for it. -/
def put (new : Entry) : List String → Entry → Entry
  | [], _ => new
  | name :: names, e =>
    dir (KeyMap.place name (put new names ((e.child? name).getD (dir []))) e.entries)

end Entry

namespace FileTree

/-- Puts an entry at a place, if that leaves a tree of files. -/
def put (t : FileTree) (place : List String) (e : Entry) : FileTree :=
  let root := Entry.put e place t.root
  if proper : root.isProper && t.unlisted.all fun named => root.isBareAt named.1 then
    { t with root, proper }
  else t

/-- A path cut in front of its last piece that is not empty: the place in front of it, the piece, and
whether a slash follows. -/
def split (t : FileTree) (path : String) : Except IOCause (List String × String × Bool) :=
  let pieces := (Path.pieces path).reverse
  let closed := pieces.head? == some ""
  match pieces.dropWhile String.isEmpty with
  | [] => if path.isEmpty then .error .notFound else .error .alreadyExists
  | piece :: before =>
    match follow t.root (t.startOf path) before.reverse with
    | .ok place => .ok (place, piece, closed)
    | .error e => .error e

/-- The directory at a place, to be changed; one that cannot be listed cannot be changed either. -/
def directoryAt (t : FileTree) (place : List String) : Except IOCause Entry :=
  match t.root.at? place, t.fault? place with
  | some e, none => if e.isDir then .ok e else .error .notADirectory
  | some _, some cause => .error cause
  | none, _ => .error .notFound

def makeDir (t : FileTree) (path : String) : Except IOCause FileTree := do
  let (place, piece, _) ← t.split path
  let e ← t.directoryAt place
  if piece = "." ∨ piece = ".." ∨ (e.child? piece).isSome then .error .alreadyExists
  else return t.put (place ++ [piece]) (.dir [])

/-- Makes a directory and those it stands in, at most `fuel` of them. -/
def makeDirsFrom : Nat → FileTree → String → Except IOCause FileTree
  | 0, t, _ => .ok t
  | fuel + 1, t, path =>
    let orPresent (t : FileTree) : IOCause → Except IOCause FileTree := fun cause =>
      if t.isDir path then .ok t else .error cause
    if path.isEmpty then .ok t
    else match t.makeDir path with
      | .ok t => .ok t
      | .error .notFound =>
        match Path.parent? path with
        | none => .error (.other "failed to create whole tree")
        | some parent =>
          match makeDirsFrom fuel t parent with
          | .error cause => .error cause
          | .ok t =>
            match t.makeDir path with
            | .ok t => .ok t
            | .error cause => orPresent t cause
      | .error cause => orPresent t cause

/-- Makes a directory and those it stands in. -/
def makeDirs (t : FileTree) (path : String) : Except IOCause FileTree :=
  makeDirsFrom (path.length + 1) t path

/-- Writes a file, new or in place of another. -/
def writeText (t : FileTree) (path content : String) : Except IOCause FileTree :=
  match t.find path with
  | .ok (_, .dir _) => .error .isADirectory
  | .ok (place, _) => .ok (t.put place (.text content))
  | .error .notFound => do
    let (place, piece, closed) ← t.split path
    let _ ← t.directoryAt place
    if closed then .error .isADirectory
    else return t.put (place ++ [piece]) (.text content)
  | .error cause => .error cause

end FileTree

/-! ### Saving -/

inductive SaveFailure where
  /-- The directory that it belongs to was not made. -/
  | directory (path : String) (cause : IOCause)
  | file (path : String) (cause : IOCause)
  deriving DecidableEq, Repr, Inhabited

/-- The texts of a failure, from the attempt down to its cause. -/
def SaveFailure.messages : SaveFailure → List String
  | directory path cause => ["Failed to create directory: " ++ path, cause.message]
  | file path cause => ["Failed to write to file: " ++ path, cause.message]

/-- Writes a file, after making the directories that it stands in. -/
def FileTree.save (t : FileTree) (path content : String) : Except SaveFailure FileTree := do
  let t ← match Path.parent? path with
    | none => pure t
    | some parent => (t.makeDirs parent).mapError (.directory parent)
  (t.writeText path content).mapError (.file path)

end ApiScribe
