import ApiScribe.Text.Category
import ApiScribe.Text.Upper

/-!
Classes of characters that a pattern can name, and the characters that count as one when a pattern
ignores case.
-/

namespace ApiScribe

/-! ### Case -/

namespace Text

/-- Characters that stand for another one when case is ignored, in the form of `upperRuns`, where
upper-case forms do not say so. -/
def foldRuns : List String :=
  ["1F80-1F87+1>1F88 1F90-1F97+1>1F98 1FA0-1FA7+1>1FA8 1FB3-1FB3+1>1FBC 1FC3-1FC3+1>1FCC",
    "1FF3-1FF3+1>1FFC DF-DF+1>1E9E 3F4-3F4+1>398 2126-2126+1>3A9 212A-212A+1>4B",
    "212B-212B+1>C5 390-390+1>1FD3 3B0-3B0+1>1FE3 FB06-FB06+1>FB05"]

/-- The runs of characters that another one stands for. -/
def foldTable : List (List Nat) := readTable foldRuns ++ upperRunTable

/-- The character that stands for all those that differ only in case. -/
def foldKey (c : Char) : Char :=
  let n := c.toNat
  if n = 0x131 then c
  else if n < 0x80 then c.toUpper
  else
    (foldTable.findSome? fun
      | [first, last, step, target] =>
        if first ≤ n && n ≤ last && (n - first) % step == 0 then
          some (Char.ofNat (target + (n - first)))
        else none
      | _ => none).getD c

/-- The characters that differ from a character only in case, and the character itself. -/
def caseVariants (c : Char) : List Char :=
  let key := foldKey c
  let k := key.toNat
  c :: key :: foldTable.filterMap fun
    | [first, last, step, target] =>
      if target ≤ k && k ≤ target + (last - first) && (k - target) % step == 0 &&
          first + (k - target) != 0x131 then
        some (Char.ofNat (first + (k - target)))
      else none
    | _ => none

end Text

/-! ### Classes -/

inductive CharClass where
  | ranges (rs : Text.Ranges)
  /-- The characters of words. -/
  | word
  /-- The decimal digits. -/
  | digit
  /-- White space. -/
  | blank
  | complement (c : CharClass)
  | union (a b : CharClass)
  | inter (a b : CharClass)
  /-- The characters that differ from one of a class only in case. -/
  | folded (c : CharClass)
  deriving DecidableEq, Repr, Inhabited

namespace CharClass

/-- Whether a character belongs to a class. -/
def has : CharClass → Char → Bool
  | ranges rs, c => rs.has c
  | word, c => Text.isWordChar c
  | digit, c => Text.isDigit c
  | blank, c => Text.isBlank c
  | complement a, c => !a.has c
  | union a b, c => a.has c || b.has c
  | inter a b, c => a.has c && b.has c
  | folded a, c => (Text.caseVariants c).any a.has

def none : CharClass := ranges []

def single (c : Char) : CharClass := ranges [(c.toNat, c.toNat)]

/-- The characters of `a` that are not in `b`. -/
def without (a b : CharClass) : CharClass := inter a (complement b)

/-- The characters of just one of two classes. -/
def distinct (a b : CharClass) : CharClass := union (without a b) (without b a)

/-- How much room a class takes in a compiled pattern, in states. -/
def size : CharClass → Nat
  | ranges rs => 1 + rs.length
  | word => 1500
  | digit => 130
  | blank => 20
  | complement a => 4 + a.size
  | union a b | inter a b => a.size + b.size
  | folded a => 2 * a.size

end CharClass

end ApiScribe
