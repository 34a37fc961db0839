import ApiScribe.Text.Cut

/-!
Tables of code points written as text: blank-separated entries, each a few hexadecimal numbers with
a sign between them.
-/

namespace ApiScribe.Text

def hexDigit? (c : Char) : Option Nat :=
  let n := c.toNat
  if 0x30 ≤ n && n ≤ 0x39 then some (n - 0x30)
  else if 0x41 ≤ n && n ≤ 0x46 then some (n - 0x37)
  else if 0x61 ≤ n && n ≤ 0x66 then some (n - 0x57)
  else none

/-- The number that hexadecimal digits write; other characters are passed over. -/
def hexValue (cs : List Char) : Nat :=
  cs.foldl (fun n c => match hexDigit? c with
    | some d => 16 * n + d
    | none => n) 0

/-- The numbers of one table entry. -/
def readEntry (cs : List Char) : List Nat :=
  (pieces (fun c => (hexDigit? c).isNone) cs).map hexValue

/-- The entries of the lines of a table. -/
def readTable (lines : List String) : List (List Nat) :=
  lines.flatMap fun line => (pieces isBlank line.toList).map readEntry

/-- A set of characters as a list of code point ranges. -/
abbrev Ranges := List (Nat × Nat)

/-- The ranges `a-b` and `a` of a table. -/
def Ranges.ofTable (lines : List String) : Ranges :=
  (readTable lines).filterMap fun
    | [a] => some (a, a)
    | a :: b :: _ => some (a, b)
    | [] => none

/-- The ranges of the row with a name. -/
def Ranges.named? (rows : List (List String × List String)) (name : String) : Option Ranges :=
  (rows.find? fun row => row.1.contains name).map fun row => .ofTable row.2

def Ranges.has (rs : Ranges) (c : Char) : Bool :=
  let n := c.toNat
  rs.any fun (a, b) => a ≤ n && n ≤ b

end ApiScribe.Text
