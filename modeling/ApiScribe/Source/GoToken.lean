import ApiScribe.Source.Tree
import ApiScribe.Text.Category
import ApiScribe.Text.Cut

/-!
Tokens of Go sources.  Comments are tokens too, and so are the ends of statements, which most lines
leave unwritten.
-/

namespace ApiScribe

namespace GoToken

inductive Kind where
  | name
  | keyword
  | number
  /-- A string in quotes or backquotes. -/
  | text
  | rune
  | comment
  | sign
  /-- The end of a statement, written or not. -/
  | stop
  deriving DecidableEq, Repr, Inhabited

end GoToken

/-- A token, with its place in the source as character offsets and line numbers. -/
structure GoToken where
  kind : GoToken.Kind
  text : String
  start : Nat
  stop : Nat
  row : Nat
  lastRow : Nat
  deriving DecidableEq, Repr, Inhabited

namespace GoToken

def keywords : List String :=
  ["break", "default", "func", "interface", "select", "case", "defer", "go", "map", "struct",
    "chan", "else", "goto", "package", "switch", "const", "fallthrough", "if", "range", "type",
    "continue", "for", "import", "return", "var"]

/-! ### Lexemes -/

/-- A piece of source text. -/
inductive Lexeme where
  | blank (text : List Char)
  | newline
  | token (kind : Kind) (text : List Char)
  deriving DecidableEq, Repr

def Lexeme.chars : Lexeme → List Char
  | blank cs => cs
  | newline => ['\n']
  | token _ cs => cs

/-- The text up to and with the quote `q`; a backslash takes the next character with it. -/
def quoted (q : Char) : List Char → List Char × List Char
  | [] => ([], [])
  | '\\' :: c :: cs => let (a, b) := quoted q cs; ('\\' :: c :: a, b)
  | c :: cs => if c = q then ([c], cs) else let (a, b) := quoted q cs; (c :: a, b)

/-- The text up to and with the character `q`. -/
def through (q : Char) : List Char → List Char × List Char
  | [] => ([], [])
  | c :: cs => if c = q then ([c], cs) else let (a, b) := through q cs; (c :: a, b)

/-- The text up to and with the end of a block comment. -/
def blockComment : List Char → List Char × List Char
  | [] => ([], [])
  | '*' :: '/' :: cs => (['*', '/'], cs)
  | c :: cs => let (a, b) := blockComment cs; (c :: a, b)

def isNumberChar (c : Char) : Bool := c.isAlphanum || c == '_' || c == '.'

/-- White space inside a line. -/
def isBlank (c : Char) : Bool := c != '\n' && (Text.isBlank c || c == '\uFEFF')

/-- The first piece of a text that starts with `c`, and the text behind it. -/
def scan (c : Char) (cs : List Char) : Lexeme × List Char :=
  if c = '\n' then (.newline, cs)
  else if isBlank c then (.blank (c :: cs.takeWhile isBlank), cs.dropWhile isBlank)
  else if Text.isIdentifierStart c then
    let word := c :: cs.takeWhile Text.isIdentifierRest
    (.token (if keywords.contains (String.ofList word) then .keyword else .name) word,
      cs.dropWhile Text.isIdentifierRest)
  else if c.isDigit then (.token .number (c :: cs.takeWhile isNumberChar), cs.dropWhile isNumberChar)
  else if c = '"' then let (a, b) := quoted '"' cs; (.token .text (c :: a), b)
  else if c = '\x60' then let (a, b) := through '\x60' cs; (.token .text (c :: a), b)
  else if c = '\'' then let (a, b) := quoted '\'' cs; (.token .rune (c :: a), b)
  else if c = ';' then (.token .stop [c], cs)
  else match c, cs with
    | '/', '/' :: r =>
      (.token .comment ('/' :: '/' :: r.takeWhile (· != '\n')), r.dropWhile (· != '\n'))
    | '/', '*' :: r => let (a, b) := blockComment r; (.token .comment ('/' :: '*' :: a), b)
    | '+', '+' :: r => (.token .sign ['+', '+'], r)
    | '-', '-' :: r => (.token .sign ['-', '-'], r)
    | '.', d :: r =>
      if d.isDigit then (.token .number (c :: d :: r.takeWhile isNumberChar), r.dropWhile isNumberChar)
      else (.token .sign [c], d :: r)
    | _, _ => (.token .sign [c], cs)

/-- The pieces of a text, at most `fuel` of them. -/
def lexemes : Nat → List Char → List Lexeme
  | 0, _ | _, [] => []
  | fuel + 1, c :: cs => let (l, r) := scan c cs; l :: lexemes fuel r

/-! ### Tokens -/

/-- Words that a statement may end with. -/
def closingKeywords : List String := ["break", "continue", "fallthrough", "return"]

/-- Whether a statement ends where the line ends behind this token. -/
def mayEnd (kind : Kind) (text : String) : Bool :=
  match kind with
  | .name | .number | .text | .rune => true
  | .keyword => closingKeywords.contains text
  | .sign => ["++", "--", ")", "]", "\x7d"].contains text
  | .comment | .stop => false

/-- Gives each token its place and puts in the unwritten ends of statements.  `ends` tells that a
statement ends where the line ends. -/
def place (start row : Nat) (ends : Bool) : List Lexeme → List GoToken
  | [] => []
  | .blank cs :: ls => place (start + cs.length) row ends ls
  | .newline :: ls =>
    let rest := place (start + 1) (row + 1) false ls
    if ends then ⟨.stop, "\n", start, start, row, row⟩ :: rest else rest
  | .token kind cs :: ls =>
    let text := String.ofList cs
    let stop := start + cs.length
    let lastRow := row + cs.count '\n'
    let ends := if kind = .comment then ends else mayEnd kind text
    ⟨kind, text, start, stop, row, lastRow⟩ :: place stop lastRow ends ls

def ofSource (cs : List Char) : List GoToken := place 0 0 false (lexemes cs.length cs)

/-- What a token does to the nesting. -/
def nesting (t : GoToken) : Nesting :=
  match t.kind, t.text.toList with
  | .sign, [c] => Tree.nestingOf c
  | _, _ => .none

end GoToken

end ApiScribe
