import ApiScribe.Json.Basic
import ApiScribe.Text.Number
import ApiScribe.Text.Table

/-!
Reading JSON text.  Each reader takes a text and gives back a value and the text behind it.
-/

namespace ApiScribe.Json

/-- Drops the white space of the format. -/
def skipSpace (cs : List Char) : List Char :=
  cs.dropWhile fun c => c == ' ' || c == '\n' || c == '\r' || c == '\t'

def readHex4 (a b c d : Char) : Option Nat := do
  return 0x1000 * (← Text.hexDigit? a) + 0x100 * (← Text.hexDigit? b) + 0x10 * (← Text.hexDigit? c) +
    (← Text.hexDigit? d)

/-- The character of an escape with one letter. -/
def simpleEscape? (c : Char) : Option Char :=
  if c = '"' then some '"'
  else if c = '\\' then some '\\'
  else if c = '/' then some '/'
  else if c = 'n' then some '\n'
  else if c = 'r' then some '\r'
  else if c = 't' then some '\t'
  else if c = 'b' then some (Char.ofNat 8)
  else if c = 'f' then some (Char.ofNat 12)
  else none

/-- The characters of a string up to its closing quote, and the text behind the quote.  Characters
outside the basic plane are escaped as two surrogates. -/
def readString : List Char → Option (List Char × List Char)
  | [] => none
  | '"' :: cs => some ([], cs)
  | '\\' :: 'u' :: a :: b :: c :: d :: cs =>
    match readHex4 a b c d with
    | none => none
    | some n =>
      if 0xD800 ≤ n && n < 0xDC00 then
        match cs with
        | '\\' :: 'u' :: a' :: b' :: c' :: d' :: cs' =>
          match readHex4 a' b' c' d' with
          | none => none
          | some m =>
            if 0xDC00 ≤ m && m < 0xE000 then
              (readString cs').map fun (s, r) =>
                (Char.ofNat (0x10000 + 0x400 * (n - 0xD800) + (m - 0xDC00)) :: s, r)
            else none
        | _ => none
      else if 0xDC00 ≤ n && n < 0xE000 then none
      else (readString cs).map fun (s, r) => (Char.ofNat n :: s, r)
  | '\\' :: c :: cs =>
    match simpleEscape? c with
    | some e => (readString cs).map fun (s, r) => (e :: s, r)
    | none => none
  | c :: cs =>
    if c.toNat < 0x20 then none else (readString cs).map fun (s, r) => (c :: s, r)

def isNumberChar (c : Char) : Bool :=
  c.isDigit || c == '-' || c == '+' || c == '.' || c == 'e' || c == 'E'

/-- Whether digits are written without a leading zero. -/
def isCanonical : List Char → Bool
  | '0' :: _ :: _ => false
  | cs => !cs.isEmpty && cs.all Char.isDigit

/-- Whether text is an exponent, or nothing. -/
def isExponent : List Char → Bool
  | [] => true
  | e :: cs =>
    let digits := match cs with
      | '+' :: ds => ds
      | '-' :: ds => ds
      | ds => ds
    (e == 'e' || e == 'E') && !digits.isEmpty && digits.all Char.isDigit

/-- Whether text is a fraction and an exponent, either of which may be missing. -/
def isFraction : List Char → Bool
  | '.' :: cs => (cs.head?.any Char.isDigit) && isExponent (cs.dropWhile Char.isDigit)
  | cs => isExponent cs

/-- A number without its sign. -/
def unsigned : List Char → List Char
  | '-' :: cs => cs
  | cs => cs

/-- The number that a text writes. -/
def number? (cs : List Char) : Option Json :=
  let whole := (unsigned cs).takeWhile Char.isDigit
  let rest := (unsigned cs).dropWhile Char.isDigit
  if !isCanonical whole then none
  else if rest.isEmpty && cs != ['-', '0'] then (Text.readInt? cs).map int
  else if isFraction rest then some (decimal (String.ofList cs))
  else none

/-- Drops a word from the front of a text. -/
def expect : List Char → List Char → Option (List Char)
  | [], cs => some cs
  | w :: ws, c :: cs => if w = c then expect ws cs else none
  | _ :: _, [] => none

mutual

/-- Reads a value; each step uses up one unit of `fuel`. -/
def readValue : Nat → List Char → Option (Json × List Char)
  | 0, _ => none
  | fuel + 1, cs =>
    match skipSpace cs with
    | '"' :: cs => (readString cs).map fun (s, r) => (str (String.ofList s), r)
    | '[' :: cs =>
      match skipSpace cs with
      | ']' :: r => some (arr [], r)
      | cs => (readItems fuel cs).map fun (js, r) => (arr js, r)
    | '\x7b' :: cs =>
      match skipSpace cs with
      | '\x7d' :: r => some (obj [], r)
      | cs => (readMembers fuel cs).map fun (ms, r) => (obj ms, r)
    | 'n' :: cs => (expect "ull".toList cs).map fun r => (null, r)
    | 't' :: cs => (expect "rue".toList cs).map fun r => (bool true, r)
    | 'f' :: cs => (expect "alse".toList cs).map fun r => (bool false, r)
    | cs => (number? (cs.takeWhile isNumberChar)).map fun j => (j, cs.dropWhile isNumberChar)

def readItems : Nat → List Char → Option (List Json × List Char)
  | 0, _ => none
  | fuel + 1, cs =>
    match readValue fuel cs with
    | none => none
    | some (j, cs) =>
      match skipSpace cs with
      | ']' :: r => some ([j], r)
      | ',' :: cs => (readItems fuel cs).map fun (js, r) => (j :: js, r)
      | _ => none

def readMembers : Nat → List Char → Option (List (String × Json) × List Char)
  | 0, _ => none
  | fuel + 1, cs =>
    match skipSpace cs with
    | '"' :: cs =>
      match readString cs with
      | none => none
      | some (k, cs) =>
        match skipSpace cs with
        | ':' :: cs =>
          match readValue fuel cs with
          | none => none
          | some (j, cs) =>
            match skipSpace cs with
            | '\x7d' :: r => some ([(String.ofList k, j)], r)
            | ',' :: cs =>
              (readMembers fuel cs).map fun (ms, r) => ((String.ofList k, j) :: ms, r)
            | _ => none
        | _ => none
    | _ => none

end

/-- Reads a text that holds one value and nothing else.  A value is read in at most two steps a
character. -/
def read? (s : String) : Option Json :=
  let cs := s.toList
  match readValue (2 * cs.length + 1) cs with
  | some (j, r) => if (skipSpace r).isEmpty then some j else none
  | none => none

end ApiScribe.Json
