import ApiScribe.Text.Number
import ApiScribe.Text.Table

/-!
What a YAML reader makes of an unquoted scalar.  A text may be written without quotes only if the
reader takes it for that text, and not for a null, a truth value or a number.
-/

namespace ApiScribe.Yaml

def nullWords : List String := ["null", "Null", "NULL", "~"]

def boolWords : List String := ["true", "True", "TRUE", "false", "False", "FALSE"]

def digitIn? (base : Nat) (c : Char) : Option Nat :=
  (Text.hexDigit? c).filter (· < base)

def digitsIn? (base : Nat) (cs : List Char) : Option Nat :=
  if cs.isEmpty then none
  else cs.foldl (fun n? c => do return base * (← n?) + (← digitIn? base c)) (some 0)

def baseOf? (c : Char) : Option Nat :=
  if c = 'x' then some 16 else if c = 'o' then some 8 else if c = 'b' then some 2 else none

/-- Whether a text is an integer in base 16, 8 or 2 that fits into 128 bits. -/
def isBasedInteger : List Char → Bool
  | '-' :: '0' :: b :: ds =>
    match baseOf? b with
    | some base => (digitsIn? base ds).any (· ≤ Nat.pow 2 127)
    | none => false
  | '+' :: '0' :: b :: ds | '0' :: b :: ds =>
    match baseOf? b with
    | some base => (digitsIn? base ds).any (· < Nat.pow 2 128)
    | none => false
  | _ => false

/-- Digits behind a zero, which are no number. -/
def isPaddedDigits (cs : List Char) : Bool :=
  let digits := match cs with
    | '-' :: ds => ds
    | '+' :: ds => ds
    | ds => ds
  match digits with
  | '0' :: d :: ds => (d :: ds).all Char.isDigit
  | _ => false

/-- The value of an exponent; no exponent counts as zero. -/
def exponent? : List Char → Option Int
  | [] => some 0
  | e :: cs =>
    if e == 'e' || e == 'E' then
      match cs with
      | '+' :: ds => (Text.readNat? ds).map Int.ofNat
      | '-' :: ds => (Text.readNat? ds).map fun n => -Int.ofNat n
      | ds => (Text.readNat? ds).map Int.ofNat
    else none

/-- Digits around an optional point, and a power of ten: the digits as one number, and the power. -/
def decimal? (cs : List Char) : Option (Nat × Int) :=
  let whole := cs.takeWhile Char.isDigit
  let rest := cs.dropWhile Char.isDigit
  let (fraction, rest) := match rest with
    | '.' :: ds => (ds.takeWhile Char.isDigit, ds.dropWhile Char.isDigit)
    | ds => ([], ds)
  if whole.isEmpty && fraction.isEmpty then none
  else do
    let digits ← Text.readNat? (whole ++ fraction)
    return (digits, (← exponent? rest) - fraction.length)

/-- Whether `digits * 10 ^ power` rounds to a finite double: the bound lies halfway between the
largest double and the next power of two. -/
def isFinite (digits : Nat) (power : Int) : Bool :=
  let bound := Nat.pow 2 1024 - Nat.pow 2 970
  if digits = 0 then true
  else if power ≥ 0 then power < 310 && digits * Nat.pow 10 power.toNat < bound
  else
    let n := (-power).toNat
    let length := (Nat.toDigits 10 digits).length
    n ≥ length || digits < bound * Nat.pow 10 n

def isFloat (cs : List Char) : Bool :=
  let unsigned := match cs with
    | '+' :: ds => ds
    | ds => ds
  let special := [".inf", ".Inf", ".INF"].contains (String.ofList unsigned) ||
    ["-.inf", "-.Inf", "-.INF", ".nan", ".NaN", ".NAN"].contains (String.ofList cs)
  let digits := match cs with
    | '+' :: ds => ds
    | '-' :: ds => ds
    | ds => ds
  special || (decimal? digits).any fun (n, power) => isFinite n power

/-- Whether a reader takes an unquoted text for something else than a text. -/
def needsQuotes (s : String) : Bool :=
  let cs := s.toList
  s.isEmpty || nullWords.contains s || boolWords.contains s || isBasedInteger cs ||
    isPaddedDigits cs || isFloat cs

end ApiScribe.Yaml
