import ApiScribe.Yaml.Plain

/-!
The written forms of a text: plain, in single quotes, in double quotes, or as a literal block.
-/

namespace ApiScribe.Yaml

def isBreak (c : Char) : Bool :=
  let n := c.toNat
  n == 0x0A || n == 0x0D || n == 0x85 || n == 0x2028 || n == 0x2029

/-- A character that may stand unescaped. -/
def isPrintable (c : Char) : Bool :=
  let n := c.toNat
  n == 0x0A || (0x20 ≤ n && n ≤ 0x7E) || (0xA0 ≤ n && n < 0xFEFF) || (0xFEFF < n && n < 0xFFFE) ||
    0x10000 ≤ n

/-- A space, a tab, a break or a null. -/
def isGap (c : Char) : Bool := c == ' ' || c == '\t' || isBreak c || c.toNat == 0

/-! ### What a text looks like -/

/-- Whether a character at the start of a text always means something else. -/
def isStartIndicator (c : Char) : Bool := "#,[]\x7b\x7d&*!|>'\"%@`".toList.contains c

/-- Whether the text behind a character starts with a gap or is empty. -/
def gapFollows : List Char → Bool
  | [] => true
  | c :: _ => isGap c

/-- Whether a colon before a gap, or a number sign behind one, stands in a text whose first
character follows `previous`. -/
def hasInnerIndicator (previous : Char) : List Char → Bool
  | [] => false
  | c :: cs =>
    (c == ':' && gapFollows cs) || (c == '#' && isGap previous) || hasInnerIndicator c cs

/-- Whether a text holds characters that would be read as structure. -/
def hasIndicator : List Char → Bool
  | [] => false
  | c :: cs =>
    "---".toList.isPrefixOf (c :: cs) || "...".toList.isPrefixOf (c :: cs) || isStartIndicator c ||
      ((c == '?' || c == ':' || c == '-') && gapFollows cs) || hasInnerIndicator c cs

/-- Whether two neighbours satisfy `p` and `q`. -/
def hasPair (p q : Char → Bool) : List Char → Bool
  | c :: d :: cs => (p c && q d) || hasPair p q (d :: cs)
  | _ => false

def isSpace (c : Char) : Bool := c == ' '

def needsEscapes (cs : List Char) : Bool :=
  cs.any (fun c => !isPrintable c) || hasPair isSpace isBreak cs

/-- Whether a text may stand without quotes, as far as its characters go. -/
def plainAllowed (cs : List Char) : Bool :=
  !(cs.head?.any isSpace || cs.getLast?.any isSpace || cs.any isBreak || needsEscapes cs ||
    hasIndicator cs)

/-- Whether a text may stand in single quotes. -/
def singleAllowed (cs : List Char) : Bool := !(hasPair isBreak isSpace cs || needsEscapes cs)

/-- Whether a text may stand in a literal block. -/
def literalAllowed (cs : List Char) : Bool :=
  !cs.isEmpty && !cs.getLast?.any isSpace && !needsEscapes cs

inductive Style where
  | plain
  | single
  | double
  | literal
  deriving DecidableEq, Repr

def styleOf (s : String) : Style :=
  let cs := s.toList
  if cs.contains '\n' then if literalAllowed cs then .literal else .double
  else if !needsQuotes s && plainAllowed cs then .plain
  else if singleAllowed cs then .single
  else .double

/-! ### Writing -/

/-- A digit of a hexadecimal number, in upper case. -/
def hexUpper (n : Nat) : Char := if n < 10 then Char.ofNat (0x30 + n) else Char.ofNat (0x37 + n)

/-- The last `width` hexadecimal digits of a number. -/
def hexDigits : Nat → Nat → List Char
  | 0, _ => []
  | width + 1, n => hexDigits width (n / 16) ++ [hexUpper (n % 16)]

def escapeLetters : List (Nat × Char) :=
  [(0x00, '0'), (0x07, 'a'), (0x08, 'b'), (0x09, 't'), (0x0A, 'n'), (0x0B, 'v'), (0x0C, 'f'),
    (0x0D, 'r'), (0x1B, 'e'), (0x22, '"'), (0x5C, '\\'), (0x85, 'N'), (0xA0, '_'), (0x2028, 'L'),
    (0x2029, 'P')]

/-- A character in double quotes. -/
def escapeChar (c : Char) : List Char :=
  let n := c.toNat
  if isPrintable c && !isBreak c && c != '"' && c != '\\' then [c]
  else match escapeLetters.lookup n with
    | some letter => ['\\', letter]
    | none =>
      if n ≤ 0xFF then '\\' :: 'x' :: hexDigits 2 n
      else if n ≤ 0xFFFF then '\\' :: 'u' :: hexDigits 4 n
      else '\\' :: 'U' :: hexDigits 8 n

/-- The start of a line on the given column. -/
def pad (column : Nat) : List Char := List.replicate column ' '

/-- The lines of a text, each character as `write` gives it; what follows a break starts on the
given column. -/
def indented (column : Nat) (write : Char → List Char) (broken : Bool) : List Char → List Char
  | [] => []
  | c :: cs =>
    if isBreak c then c :: indented column write true cs
    else (if broken then pad column else []) ++ write c ++ indented column write false cs

/-- The sign behind the bar of a literal block: whether the final breaks are dropped, are one, or
are all kept. -/
def chomp (cs : List Char) : List Char :=
  match cs.reverse with
  | c :: rest =>
    if !isBreak c then ['-'] else if rest.isEmpty || rest.head?.any isBreak then ['+'] else []
  | [] => ['-']

/-- The digit behind the bar: the text starts with a blank, so its indentation must be told. -/
def indentHint (cs : List Char) : List Char :=
  if cs.head?.any fun c => isSpace c || isBreak c then ['2'] else []

/-- A text in its form, with further lines on the given column, up to and with the end of the
line. -/
def scalar (column : Nat) (s : String) : List Char :=
  let cs := s.toList
  match styleOf s with
  | .plain => cs ++ ['\n']
  | .single =>
    let body := indented column (fun c => if c = '\'' then ['\'', '\''] else [c]) false cs
    '\'' :: body ++ (if cs.getLast?.any isBreak then pad column else []) ++ ['\'', '\n']
  | .double => '"' :: cs.flatMap escapeChar ++ ['"', '\n']
  | .literal =>
    '|' :: indentHint cs ++ chomp cs ++ '\n' :: indented column (fun c => [c]) true cs ++
      (if cs.getLast?.any isBreak then [] else ['\n'])

end ApiScribe.Yaml
