import ApiScribe.Error
import ApiScribe.Files.Path

/-!
Trees of files.  A path is followed piece by piece from the root or from the current directory; each
directory has one name without dots, its place.  A directory that cannot be listed stands in a tree
with nothing in it.
-/

namespace ApiScribe

inductive Entry where
  | text (content : String)
  /-- A file that holds no text. -/
  | binary
  /-- A directory, in the order of its names. -/
  | dir (entries : List (String × Entry))
  deriving Repr, Inhabited

namespace Entry

def isDir : Entry → Bool
  | dir _ => true
  | _ => false

def isFile (e : Entry) : Bool := !e.isDir

/-- What a directory holds; files hold nothing. -/
def entries : Entry → List (String × Entry)
  | dir es => es
  | _ => []

/-- The entry with a name in a directory. -/
def child? (e : Entry) (name : String) : Option Entry := e.entries.lookup name

/-- The entry at a place below. -/
def at? : List String → Entry → Option Entry
  | [], e => some e
  | name :: names, e => (e.child? name).bind (at? names)

mutual

/-- The number of directories in an entry. -/
def directories : Entry → Nat
  | .dir es => 1 + directoriesIn es
  | _ => 0

def directoriesIn : List (String × Entry) → Nat
  | [] => 0
  | (_, e) :: es => e.directories + directoriesIn es

end

mutual

/-- Below an entry, each directory holds its entries in the order of their names. -/
def isProper : Entry → Bool
  | .dir es => areProper es
  | _ => true

/-- Entries of a directory stand in the order of their names, one for each, and so do those below. -/
def areProper : List (String × Entry) → Bool
  | [] => true
  | (name, e) :: es =>
    Path.isName name && es.all (fun other => decide (name < other.1)) && e.isProper && areProper es

end

/-- Whether a directory with nothing in it stands at a place. -/
def isBareAt (e : Entry) (place : List String) : Bool :=
  match e.at? place with
  | some (.dir []) => true
  | _ => false

theorem isProper_bare : ((dir []).isProper &&
    ([] : List (List String × IOCause)).all fun named => (dir []).isBareAt named.1) = true := rfl

end Entry

/-- A tree of files, with the place of the current directory. -/
structure FileTree where
  root : Entry := .dir []
  here : List String := []
  /-- The places of the directories that cannot be listed, with the causes. -/
  unlisted : List (List String × IOCause) := []
  proper : (root.isProper && unlisted.all fun named => root.isBareAt named.1) = true := by
    first
    | with_reducible exact Entry.isProper_bare
    | decide +kernel
  deriving Repr

namespace FileTree

instance : Inhabited FileTree := ⟨{}⟩

/-! ### Following paths -/

/-- Goes on from a place by one piece of a path. -/
def step (root : Entry) (place : List String) (piece : String) : Except IOCause (List String) :=
  match root.at? place with
  | none => .error .notFound
  | some e =>
    if e.isFile then .error .notADirectory
    else if Path.isIdle piece then .ok place
    else if piece = ".." then .ok place.dropLast
    else if (e.child? piece).isSome then .ok (place ++ [piece])
    else .error .notFound

def follow (root : Entry) (place : List String) : List String → Except IOCause (List String)
  | [] => .ok place
  | piece :: pieces =>
    match step root place piece with
    | .ok place => follow root place pieces
    | .error e => .error e

def startOf (t : FileTree) (path : String) : List String :=
  if Path.isAbsolute path then [] else t.here

def place (t : FileTree) (path : String) : Except IOCause (List String) :=
  if path.isEmpty then .error .notFound else follow t.root (t.startOf path) (Path.pieces path)

/-- The place and the entry that a path leads to. -/
def find (t : FileTree) (path : String) : Except IOCause (List String × Entry) :=
  match t.place path with
  | .error e => .error e
  | .ok place =>
    match t.root.at? place with
    | some e => .ok (place, e)
    | none => .error .notFound

/-! ### Reading -/

def isDir (t : FileTree) (path : String) : Bool :=
  match t.find path with
  | .ok (_, e) => e.isDir
  | .error _ => false

def isFile (t : FileTree) (path : String) : Bool :=
  match t.find path with
  | .ok (_, e) => e.isFile
  | .error _ => false

/-- The one name of the directory that a path leads to. -/
def directory? (t : FileTree) (path : String) : Option String :=
  match t.find path with
  | .ok (place, e) => if e.isDir then some (Path.ofSegments place) else none
  | .error _ => none

def readText (t : FileTree) (path : String) : Except IOCause String :=
  match t.find path with
  | .error e => .error e
  | .ok (_, .text content) => .ok content
  | .ok (_, .binary) => .error .invalidData
  | .ok (_, .dir _) => .error .isADirectory

/-- Why the directory at a place cannot be listed, if it cannot. -/
def fault? (t : FileTree) (place : List String) : Option IOCause := t.unlisted.lookup place

/-- Whether all directories can be listed. -/
def isOpen (t : FileTree) : Bool := t.unlisted.isEmpty

/-- What a directory holds, in the order of the names. -/
def list (t : FileTree) (path : String) : Except IOCause (List (String × Entry)) :=
  match t.find path with
  | .error e => .error e
  | .ok (place, e) =>
    if e.isFile then .error .notADirectory
    else match t.fault? place with
      | some cause => .error cause
      | none => .ok e.entries

end FileTree

end ApiScribe
