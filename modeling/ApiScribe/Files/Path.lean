import ApiScribe.Text.Cut

/-!
Paths as they are written: texts with `/` between their segments.  Empty segments and single dots
do not count, except for a dot at the start of a relative path; `..` is a segment like any other.
-/

namespace ApiScribe.Path

/-- The pieces between the slashes. -/
def pieces (p : String) : List String := Text.splitOn '/' p

def isAbsolute (p : String) : Bool := p.toList.head? == some '/'

/-- A piece that leads to nowhere else. -/
def isIdle (piece : String) : Bool := piece.isEmpty || piece == "."

/-- The names that an entry of a directory may have. -/
def isName (s : String) : Bool := !s.toList.contains '/' && !isIdle s && s != ".."

/-- The pieces that count. -/
def segments (p : String) : List String := (pieces p).filter fun piece => !isIdle piece

/-- Whether a relative path starts with a single dot. -/
def startsHere (p : String) : Bool := (pieces p).head? == some "."

/-- Segments behind each other. -/
def joined (segments : List String) : String := "/".intercalate segments

/-- The absolute path with the given segments. -/
def ofSegments (segments : List String) : String := "/" ++ joined segments

/-- The one spelling of all paths that differ only in pieces that do not count. -/
def normal (p : String) : String :=
  if isAbsolute p then ofSegments (segments p)
  else if startsHere p then joined ("." :: segments p)
  else joined (segments p)

/-- The path `q` as seen from `p`. -/
def join (p q : String) : String :=
  if isAbsolute q || p.isEmpty then q
  else if p.toList.getLast? = some '/' then p ++ q
  else p ++ "/" ++ q

/-- The last segment, unless it leads upwards. -/
def fileName? (p : String) : Option String :=
  (segments p).getLast?.filter fun name => name != ".."

/-- The pieces without those at the end that do not count. -/
def trimIdle (pieces : List String) : List String :=
  (pieces.reverse.dropWhile isIdle).reverse

/-- The path without its last segment, as it is written; the root and the empty path have none. -/
def parent? (p : String) : Option String :=
  if isAbsolute p then
    match trimIdle ((pieces p).drop 1) with
    | [] => none
    | body => some (ofSegments (trimIdle body.dropLast))
  else if startsHere p then
    match trimIdle ((pieces p).drop 1) with
    | [] => some ""
    | body => some (joined ("." :: trimIdle body.dropLast))
  else
    match trimIdle (pieces p) with
    | [] => none
    | body => some (joined (trimIdle body.dropLast))

end ApiScribe.Path
