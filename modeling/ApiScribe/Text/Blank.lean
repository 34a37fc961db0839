/-!
Blank characters, and the cuts of a line that depend on them: trimming, and reading the first few
words of a line while the rest stays untouched.
-/

namespace ApiScribe.Text

/-- The characters with the Unicode property `White_Space`. -/
def isBlank (c : Char) : Bool :=
  let n := c.toNat
  (0x09 ≤ n && n ≤ 0x0D) || n == 0x20 || n == 0x85 || n == 0xA0 || n == 0x1680 ||
    (0x2000 ≤ n && n ≤ 0x200A) || n == 0x2028 || n == 0x2029 || n == 0x202F || n == 0x205F ||
    n == 0x3000

/-! ### Trimming -/

/-- Drops the characters that satisfy `p` from the end. -/
def dropEnd (p : Char → Bool) (cs : List Char) : List Char :=
  (cs.reverse.dropWhile p).reverse

/-- Drops the characters that satisfy `p` from both ends. -/
def strip (p : Char → Bool) (cs : List Char) : List Char :=
  dropEnd p (cs.dropWhile p)

/-- A line without its leading and trailing blanks. -/
def trim (cs : List Char) : List Char := strip isBlank cs

def trimmed (s : String) : String := String.ofList (trim s.toList)

@[simp] theorem dropEnd_nil (p : Char → Bool) : dropEnd p [] = [] := rfl

@[simp] theorem strip_nil (p : Char → Bool) : strip p [] = [] := rfl

@[simp] theorem trim_nil : trim [] = [] := rfl

/-! ### Words -/

def word (cs : List Char) : List Char := cs.takeWhile fun c => !isBlank c

/-- The line from its first blank on. -/
def afterWord (cs : List Char) : List Char := cs.dropWhile fun c => !isBlank c

theorem word_append_afterWord (cs : List Char) : word cs ++ afterWord cs = cs :=
  List.takeWhile_append_dropWhile

/-- Up to `n` words of a line that starts with none of its blanks, and the rest behind the blanks
that end the last of them. -/
def takeWords : Nat → List Char → List (List Char) × List Char
  | 0, cs => ([], cs)
  | _ + 1, [] => ([], [])
  | n + 1, c :: cs =>
    let (ws, rest) := takeWords n ((afterWord (c :: cs)).dropWhile isBlank)
    (word (c :: cs) :: ws, rest)

/-- Up to `n` leading words of a line and the untouched rest. -/
def leadingWords (n : Nat) (cs : List Char) : List (List Char) × List Char :=
  takeWords n (cs.dropWhile isBlank)

end ApiScribe.Text
