import ApiScribe.Source.Tree
import ApiScribe.Text.Blank
import ApiScribe.Text.Category
import ApiScribe.Text.Table

/-!
Tokens of Rust sources.  A doc comment is written in other words here: it stands for the attribute
`#[doc = "..."]` with its text.  A source with a piece that is no token has no tokens at all.
-/

namespace ApiScribe

inductive RustToken where
  /-- An identifier or a reserved word; a raw identifier keeps its `r#`. -/
  | name (text : String)
  | lifetime (text : String)
  /-- A sign, and whether another sign stands right behind it. -/
  | sign (c : Char) (joint : Bool)
  /-- A string literal by its value. -/
  | text (value : String)
  | number (text : String)
  /-- A literal of another kind. -/
  | literal
  deriving DecidableEq, Repr, Inhabited

namespace RustToken

abbrev Rest := List Char

/-! ### Blanks and comments -/

def isBlank (c : Char) : Bool := Text.isBlank c || c == '\u200E' || c == '\u200F'

/-- The text up to the end of the line, and what follows; a carriage return before the line feed
belongs to neither. -/
def restOfLine : List Char → List Char × Rest
  | [] => ([], [])
  | '\n' :: cs => ([], '\n' :: cs)
  | '\r' :: '\n' :: cs => ([], '\n' :: cs)
  | c :: cs => let (a, b) := restOfLine cs; (c :: a, b)

/-- The text inside a block comment behind its opening, and what follows its end; comments nest. -/
def blockComment : Nat → List Char → Option (List Char × Rest)
  | depth, '/' :: '*' :: cs => (blockComment (depth + 1) cs).map fun (a, b) => ('/' :: '*' :: a, b)
  | 0, '*' :: '/' :: cs => some ([], cs)
  | depth + 1, '*' :: '/' :: cs => (blockComment depth cs).map fun (a, b) => ('*' :: '/' :: a, b)
  | depth, c :: cs => (blockComment depth cs).map fun (a, b) => (c :: a, b)
  | _, [] => none

/-- Whether every carriage return is followed by a line feed. -/
def returnsClosed : List Char → Bool
  | [] => true
  | '\r' :: '\n' :: cs => returnsClosed cs
  | c :: cs => c != '\r' && returnsClosed cs

/-- The attribute that a doc comment stands for. -/
def docAttribute (inner : Bool) (cs : List Char) : Option (List RustToken) :=
  if returnsClosed cs then
    let mark := if inner then [sign '!' false] else []
    some (sign '#' false :: mark ++ [sign '[' false, name "doc", sign '=' false,
      text (String.ofList cs), sign ']' false])
  else none

/-! ### Literals -/

/-- The character that the hexadecimal digits of `\u{…}` write, after `digits` of them. -/
def codePoint (digits value : Nat) : List Char → Option (Char × Rest)
  | [] => none
  | c :: cs =>
    match Text.hexDigit? c with
    | some d => if digits < 6 then codePoint (digits + 1) (16 * value + d) cs else none
    | none =>
      if digits = 0 then none
      else if c = '_' then codePoint digits value cs
      else if c = '\x7d' ∧ value.isValidChar then some (Char.ofNat value, cs)
      else none

inductive Quoted where
  | chars
  | bytes
  | terminated
  deriving DecidableEq

/-- The character that an escape behind a backslash writes. -/
def escape (kind : Quoted) : List Char → Option (Char × Rest)
  | 'n' :: cs => some ('\n', cs)
  | 'r' :: cs => some ('\r', cs)
  | 't' :: cs => some ('\t', cs)
  | '\\' :: cs => some ('\\', cs)
  | '\'' :: cs => some ('\'', cs)
  | '"' :: cs => some ('"', cs)
  | '0' :: cs => if kind = .terminated then none else some ('\x00', cs)
  | 'x' :: a :: b :: cs =>
    match Text.hexDigit? a, Text.hexDigit? b with
    | some h, some l =>
      if kind = .chars ∧ 8 ≤ h then none
      else if kind = .terminated ∧ h = 0 ∧ l = 0 then none
      else some (Char.ofNat (16 * h + l), cs)
    | _, _ => none
  | 'u' :: '\x7b' :: cs => if kind = .bytes then none else codePoint 0 0 cs
  | _ => none

/-- A blank that a backslash at the end of a line takes with it. -/
def isSkipped (c : Char) : Bool := c == ' ' || c == '\t' || c == '\n' || c == '\r'

/-- The value of a string literal behind its opening quote, and what follows its closing quote. -/
def quoted (kind : Quoted) : Nat → List Char → Option (List Char × Rest)
  | 0, _ | _, [] => none
  | _ + 1, '"' :: cs => some ([], cs)
  | n + 1, '\\' :: '\n' :: cs => quoted kind n (cs.dropWhile isSkipped)
  | n + 1, '\\' :: '\r' :: '\n' :: cs => quoted kind n (cs.dropWhile isSkipped)
  | n + 1, '\\' :: cs =>
    match escape kind cs with
    | some (c, cs) => (quoted kind n cs).map fun (a, b) => (c :: a, b)
    | none => none
  | n + 1, '\r' :: '\n' :: cs => (quoted kind n cs).map fun (a, b) => ('\n' :: a, b)
  | n + 1, c :: cs =>
    if c = '\r' ∨ kind = .bytes ∧ 0x80 ≤ c.toNat ∨ kind = .terminated ∧ c = '\x00' then none
    else (quoted kind n cs).map fun (a, b) => (c :: a, b)

/-- The value of a raw string behind its opening quote, up to the closing quote with `hashes` hash
signs. -/
def rawQuoted (hashes : List Char) : List Char → Option (List Char × Rest)
  | [] => none
  | c :: cs =>
    if c = '"' ∧ hashes.isPrefixOf cs then some ([], cs.drop hashes.length)
    else if c = '\r' ∧ cs.head? ≠ some '\n' then none
    else (rawQuoted hashes cs).map fun (a, b) => (c :: a, b)

/-- A raw string behind its `r`. -/
def raw (cs : List Char) : Option (List Char × Rest) :=
  let hashes := cs.takeWhile (· == '#')
  match cs.dropWhile (· == '#') with
  | '"' :: cs => rawQuoted hashes cs
  | _ => none

/-- What follows the suffix of a literal. -/
def afterSuffix (cs : List Char) : Rest :=
  match cs with
  | c :: r => if Text.isIdentifierStart c then r.dropWhile Text.isIdentifierRest else cs
  | [] => []

/-- What follows a character literal behind its opening quote. -/
def afterCharacter (kind : Quoted) (cs : List Char) : Option Rest :=
  let behind := match cs with
    | '\\' :: r => (escape kind r).map Prod.snd
    | _ :: r => some r
    | [] => none
  match behind with
  | some ('\'' :: r) => some (afterSuffix r)
  | _ => none

/-! ### Numbers -/

def isDigitChar (c : Char) : Bool := c.isDigit || c == '_'

/-- What follows the exponent behind an `e`, if there is one. -/
def afterExponent (cs : List Char) : Option Rest :=
  let cs := match cs with
    | '+' :: r => r
    | '-' :: r => r
    | _ => cs
  if (cs.takeWhile isDigitChar).any Char.isDigit then some (cs.dropWhile isDigitChar) else none

/-- What follows a number with a base, behind the base. -/
def afterBased (base : Nat) (cs : List Char) : Option Rest :=
  let isPart (c : Char) : Bool :=
    if 10 < base then (Text.hexDigit? c).isSome || c == '_' else isDigitChar c
  let digits := (cs.takeWhile isPart).filterMap Text.hexDigit?
  if digits.isEmpty || digits.any fun d => base ≤ d then none else some (cs.dropWhile isPart)

/-- What follows a number without its suffix. -/
def afterNumber (cs : List Char) : Option Rest :=
  match cs with
  | '0' :: 'x' :: r => afterBased 16 r
  | '0' :: 'o' :: r => afterBased 8 r
  | '0' :: 'b' :: r => afterBased 2 r
  | _ =>
    let whole := cs.dropWhile isDigitChar
    let fraction := match whole with
      | '.' :: c :: r =>
        if c = '.' || Text.isIdentifierStart c then whole else (c :: r).dropWhile isDigitChar
      | ['.'] => []
      | _ => whole
    match fraction with
    | 'e' :: r => (afterExponent r).or (some fraction)
    | 'E' :: r => (afterExponent r).or (some fraction)
    | _ => some fraction

/-! ### Tokens -/

def isSign (c : Char) : Bool := "~!@#$%^&*-=+|;:,<.>/?'".toList.contains c

/-- Whether a text starts with a sign and not with a comment. -/
def startsSign : List Char → Bool
  | '/' :: '/' :: _ => false
  | '/' :: '*' :: _ => false
  | c :: _ => isSign c
  | [] => false

/-- Starts of words that are broken literals. -/
def literalStarts : List (List Char) :=
  ["r\"", "r#\"", "r##", "b\"", "b'", "br\"", "br#", "c\"", "cr\"", "cr#"].map String.toList

/-- The names that have no raw form. -/
def neverRaw : List String := ["_", "super", "self", "Self", "crate"]

def plainWord : List Char → Option (List Char × Rest)
  | c :: cs =>
    if Text.isIdentifierStart c then
      some (c :: cs.takeWhile Text.isIdentifierRest, cs.dropWhile Text.isIdentifierRest)
    else none
  | [] => none

def word : List Char → Option (String × Rest)
  | 'r' :: '#' :: cs =>
    match plainWord cs with
    | some (w, r) =>
      if neverRaw.contains (String.ofList w) then none else some ("r#" ++ String.ofList w, r)
    | none => none
  | cs => (plainWord cs).map fun (w, r) => (String.ofList w, r)

/-- A quote that starts a character or a lifetime. -/
def quote (cs : List Char) : Option (List RustToken × Rest) :=
  match afterCharacter .chars cs with
  | some r => some ([literal], r)
  | none =>
    match word cs with
    | some (w, r) => if r.head? = some '\'' then none else some ([lifetime w], r)
    | none => none

/-- A string whose value has been read. -/
def textToken (r : Option (List Char × Rest)) : Option (List RustToken × Rest) :=
  r.map fun (value, rest) => ([text (String.ofList value)], afterSuffix rest)

/-- A literal that is neither a string nor a number. -/
def otherLiteral (r : Option (List Char × Rest)) : Option (List RustToken × Rest) :=
  r.map fun (_, rest) => ([literal], afterSuffix rest)

/-- The tokens that a text starts with, and what follows; blanks and comments are no tokens. -/
def next (cs : List Char) : Option (List RustToken × Rest) :=
  match cs with
  | '/' :: '/' :: '/' :: '/' :: r => some ([], (restOfLine r).2)
  | '/' :: '/' :: '/' :: r => let (a, b) := restOfLine r; (docAttribute false a).map fun ts => (ts, b)
  | '/' :: '/' :: '!' :: r => let (a, b) := restOfLine r; (docAttribute true a).map fun ts => (ts, b)
  | '/' :: '/' :: r => some ([], (restOfLine r).2)
  | '/' :: '*' :: '*' :: '/' :: r => some ([], r)
  | '/' :: '*' :: '*' :: '*' :: r => (blockComment 0 ('*' :: '*' :: r)).map fun (_, b) => ([], b)
  | '/' :: '*' :: '*' :: r =>
    match blockComment 0 r with
    | some (a, b) => (docAttribute false a).map fun ts => (ts, b)
    | none => none
  | '/' :: '*' :: '!' :: r =>
    match blockComment 0 r with
    | some (a, b) => (docAttribute true a).map fun ts => (ts, b)
    | none => none
  | '/' :: '*' :: r => (blockComment 0 r).map fun (_, b) => ([], b)
  | '"' :: r => textToken (quoted .chars (r.length + 1) r)
  | 'r' :: '"' :: r => textToken (raw ('"' :: r))
  | 'b' :: '"' :: r => otherLiteral (quoted .bytes (r.length + 1) r)
  | 'b' :: 'r' :: '"' :: r => otherLiteral (raw ('"' :: r))
  | 'b' :: 'r' :: '#' :: r => otherLiteral (raw ('#' :: r))
  | 'c' :: '"' :: r => otherLiteral (quoted .terminated (r.length + 1) r)
  | 'c' :: 'r' :: '"' :: r => otherLiteral (raw ('"' :: r))
  | 'c' :: 'r' :: '#' :: r => otherLiteral (raw ('#' :: r))
  | 'b' :: '\'' :: r => (afterCharacter .bytes r).map fun r => ([literal], r)
  | '\'' :: r => quote r
  | 'r' :: '#' :: r =>
    match raw ('#' :: r) with
    | some value => textToken (some value)
    | none =>
      if literalStarts.any fun s => s.isPrefixOf cs then none
      else (word cs).map fun (w, r) => ([name w], r)
  | c :: r =>
    if isBlank c then some ([], r.dropWhile isBlank)
    else if c.isDigit then
      match afterNumber cs with
      | some rest =>
        let behind := afterSuffix rest
        if (behind.head?.map Text.isIdentifierRest).getD false then none
        else some ([number (String.ofList (cs.take (cs.length - behind.length)))], behind)
      | none => none
    else if "()[]\x7b\x7d".toList.contains c then some ([sign c false], r)
    else if isSign c then some ([sign c (startsSign r)], r)
    else (word cs).map fun (w, r) => ([name w], r)
  | [] => none

/-- The tokens of a text, in at most `fuel` pieces. -/
def scan : Nat → List Char → Option (List RustToken)
  | _, [] => some []
  | 0, _ :: _ => none
  | fuel + 1, cs =>
    match next cs with
    | some (ts, r) => (scan fuel r).map (ts ++ ·)
    | none => none

/-- Takes off a byte order mark and a first line that names an interpreter. -/
def withoutHeader (cs : List Char) : List Char :=
  let cs := match cs with
    | '\uFEFF' :: r => r
    | _ => cs
  match cs with
  | '#' :: '!' :: r =>
    match skipBlank r.length r with
    | '[' :: _ => cs
    | _ => r.dropWhile (· != '\n')
  | _ => cs
where
  /-- Drops blanks and comments that are no doc comments. -/
  skipBlank : Nat → List Char → List Char
    | 0, cs => cs
    | n + 1, cs =>
      match cs with
      | [] => []
      | c :: _ =>
        if isBlank c || c == '/' then
          match next cs with
          | some ([], r) => skipBlank n r
          | _ => cs
        else cs

def ofSource? (source : List Char) : Option (List RustToken) :=
  let cs := withoutHeader source
  scan cs.length cs

/-- What a token does to the nesting. -/
def nesting : RustToken → Nesting
  | sign c _ => Tree.nestingOf c
  | _ => .none

end RustToken

end ApiScribe
