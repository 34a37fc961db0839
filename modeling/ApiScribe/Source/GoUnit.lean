import ApiScribe.Source.GoDeclaration

/-!
Go sources as a whole.  A source is a sequence of declarations and of comments between them; the
comment block that ends on the line above a function is the function's comment.
-/

namespace ApiScribe.GoUnit

open GoTree

/-! ### The top level -/

/-- What stands on the top level of a source. -/
inductive Item where
  /-- A comment, its first and its last row. -/
  | comment (lines : List String) (row lastRow : Nat)
  /-- The trees of a declaration and its first row. -/
  | declaration (row : Nat) (trees : List GoTree)
  deriving Inhabited

/-- The lines of a comment without its markers. -/
def commentLines (raw : String) : List String :=
  match raw.toList with
  | '/' :: '/' :: body => [String.ofList (Text.trim body)]
  | '/' :: '*' :: body =>
    let body := match body.reverse with
      | '/' :: '*' :: r => r.reverse
      | _ => body
    (Text.lines body).map fun line =>
      String.ofList (Text.trim ((Text.trim line).dropWhile (· == '*')))
  | cs => [String.ofList (Text.trim cs)]

/-- A comment token on the top level. -/
def commentItem (t : GoToken) : Item := .comment (commentLines t.text) t.row t.lastRow

/-- The items of some trees in which no statement ends: a declaration, and the comments behind
it. -/
def flush (pending : List GoTree) : List Item :=
  let trailing := (pending.reverse.takeWhile isComment).reverse
  let trees := (pending.reverse.dropWhile isComment).reverse
  let declared := match trees with
    | [] => []
    | t :: _ => [Item.declaration t.first.row trees]
  declared ++ trailing.map fun t => commentItem t.first

/-- The items of a source, given the trees of the declaration that has begun. -/
def items (pending : List GoTree) : List GoTree → List Item
  | [] => flush pending
  | t :: ts =>
    if isStop t then flush pending ++ items [] ts
    else if pending.isEmpty && isComment t then commentItem t.first :: items [] ts
    else items (pending ++ [t]) ts

/-! ### Comments and declarations -/

/-- The comment block that has been read last, and its last row. -/
abbrev Block := Option (List String × Nat)

/-- The block after a comment: the comment goes on with the block if it starts in the row behind it
or before. -/
def Block.push (block : Block) (lines : List String) (row lastRow : Nat) : Block :=
  match block with
  | some (before, end') =>
    if row ≤ end' + 1 then some (before ++ lines, lastRow) else some (lines, lastRow)
  | none => some (lines, lastRow)

/-- The lines of a block that ends in the row above the given one. -/
def Block.above (block : Block) (row : Nat) : List String :=
  match block with
  | some (lines, end') => if end' + 1 = row then lines else []
  | none => []

/-- What a declaration adds to a unit, given the comment above it. -/
def declare (source : List Char) (u : SourceUnit) (doc : List String) (trees : List GoTree) :
    SourceUnit :=
  match trees with
  | [] => u
  | keyword :: rest =>
    if isWord "import" keyword then
      { u with imports := u.imports ++
        (GoDeclaration.specs rest).filterMap GoDeclaration.importSpec? }
    else if isWord "type" keyword then
      { u with types := u.types ++
        (GoDeclaration.specs rest).filterMap (GoDeclaration.typeSpec? source) }
    else { u with functions := u.functions ++ (GoDeclaration.function? source doc trees).toList }

/-- Adds the items of a source to a unit. -/
def collect (source : List Char) (u : SourceUnit) (block : Block) : List Item → SourceUnit
  | [] => u
  | .comment lines row lastRow :: rest =>
    collect source { u with comments := u.comments ++ lines } (block.push lines row lastRow) rest
  | .declaration row trees :: rest =>
    collect source (declare source u (block.above row) trees) none rest

def read (path source : String) : SourceUnit :=
  let cs := source.toList
  collect cs { path } none (items [] (Tree.ofTokens GoToken.nesting (GoToken.ofSource cs)))

end ApiScribe.GoUnit
