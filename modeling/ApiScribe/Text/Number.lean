import ApiScribe.Text.Blank

/-!
Reading decimal integers: an optional sign and at least one digit.
-/

namespace ApiScribe.Text

def decimalDigit? (c : Char) : Option Nat :=
  if 0x30 ≤ c.toNat && c.toNat ≤ 0x39 then some (c.toNat - 0x30) else none

/-- Reads decimal digits behind the number `n`. -/
def readDigits (n : Nat) : List Char → Option Nat
  | [] => some n
  | c :: cs =>
    match decimalDigit? c with
    | some d => readDigits (10 * n + d) cs
    | none => none

def readNat? : List Char → Option Nat
  | [] => none
  | c :: cs => readDigits 0 (c :: cs)

def readInt? : List Char → Option Int
  | '+' :: cs => (readNat? cs).map Int.ofNat
  | '-' :: cs => (readNat? cs).map fun n => -Int.ofNat n
  | cs => (readNat? cs).map Int.ofNat

def readInt32? (cs : List Char) : Option Int32 :=
  (readInt? cs).bind fun n =>
    if Int32.minValue.toInt ≤ n ∧ n ≤ Int32.maxValue.toInt then some (Int32.ofInt n) else none

end ApiScribe.Text
