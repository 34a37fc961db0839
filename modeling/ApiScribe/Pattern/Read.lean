import ApiScribe.Pattern.Basic
import ApiScribe.Pattern.Property
import ApiScribe.Text.Number

/-!
Reading patterns.  A text that breaks the rules of patterns, or that describes a pattern too large
to compile, is no pattern.
-/

namespace ApiScribe.Pattern

/-- What the letters in front of a part of a pattern switch on. -/
structure Flags where
  /-- Letters match in upper and lower case. -/
  ignoreCase : Bool := false
  /-- `^` and `$` match at lines. -/
  multiLine : Bool := false
  /-- A dot matches line feeds. -/
  dotAll : Bool := false
  /-- Carriage returns end lines too. -/
  returns : Bool := false
  /-- Classes hold the characters of all scripts. -/
  unicode : Bool := true
  /-- Blanks and comments do not count. -/
  spaced : Bool := false

abbrev Rest := List Char

/-! ### Named classes -/

/-- The class, or the characters that are not in it. -/
def sided (negated : Bool) (c : CharClass) : CharClass := if negated then .complement c else c

/-- The class that a letter behind a backslash names. -/
def letterClass? (flags : Flags) (letter : Char) : Option CharClass :=
  let ascii (rs : Text.Ranges) (c : CharClass) : CharClass := if flags.unicode then c else .ranges rs
  match letter with
  | 'd' => some (ascii [(0x30, 0x39)] .digit)
  | 'w' => some (ascii [(0x30, 0x39), (0x41, 0x5A), (0x5F, 0x5F), (0x61, 0x7A)] .word)
  | 's' => some (ascii [(0x09, 0x0D), (0x20, 0x20)] .blank)
  | 'D' => if flags.unicode then some (.complement .digit) else none
  | 'W' => if flags.unicode then some (.complement .word) else none
  | 'S' => if flags.unicode then some (.complement .blank) else none
  | _ => none

/-- The named classes of ASCII characters. -/
def asciiClass? : String → Option Text.Ranges
  | "alnum" => some [(0x30, 0x39), (0x41, 0x5A), (0x61, 0x7A)]
  | "alpha" => some [(0x41, 0x5A), (0x61, 0x7A)]
  | "ascii" => some [(0x00, 0x7F)]
  | "blank" => some [(0x09, 0x09), (0x20, 0x20)]
  | "cntrl" => some [(0x00, 0x1F), (0x7F, 0x7F)]
  | "digit" => some [(0x30, 0x39)]
  | "graph" => some [(0x21, 0x7E)]
  | "lower" => some [(0x61, 0x7A)]
  | "print" => some [(0x20, 0x7E)]
  | "punct" => some [(0x21, 0x2F), (0x3A, 0x40), (0x5B, 0x60), (0x7B, 0x7E)]
  | "space" => some [(0x09, 0x0D), (0x20, 0x20)]
  | "upper" => some [(0x41, 0x5A)]
  | "word" => some [(0x30, 0x39), (0x41, 0x5A), (0x5F, 0x5F), (0x61, 0x7A)]
  | "xdigit" => some [(0x30, 0x39), (0x41, 0x46), (0x61, 0x66)]
  | _ => none

/-! ### Escapes -/

/-- What a backslash and the characters behind it stand for. -/
inductive Escaped where
  | char (c : Char)
  | ofClass (c : CharClass)
  | look (l : Look)

def charOf (n : Nat) : Option Char := if n.isValidChar then some (Char.ofNat n) else none

/-- The number that hexadecimal digits write; other characters have none. -/
def hexNumber? (cs : List Char) : Option Nat :=
  if cs.isEmpty then none
  else cs.foldl (fun n c => match n, Text.hexDigit? c with
    | some n, some d => some (16 * n + d)
    | _, _ => none) (some 0)

/-- The text up to a closing brace, and what follows it. -/
def braced (cs : List Char) : Option (List Char × Rest) := Text.cutFirst (· == '\x7d') cs

/-- The character that hexadecimal digits behind `\x`, `\u` or `\U` name. -/
def hexEscape (digits : Nat) (cs : List Char) : Option (Escaped × Rest) :=
  match cs with
  | '\x7b' :: r =>
    match braced r with
    | some (ds, r) => ((hexNumber? ds).bind charOf).map fun c => (.char c, r)
    | none => none
  | _ =>
    if cs.length < digits then none
    else ((hexNumber? (cs.take digits)).bind charOf).map fun c => (.char c, cs.drop digits)

/-- The text before the first `!=`, and what follows it. -/
def cutDiffers : List Char → Option (List Char × Rest)
  | '!' :: '=' :: cs => some ([], cs)
  | c :: cs => (cutDiffers cs).map fun (before, after) => (c :: before, after)
  | [] => none

/-- The class that is written between the braces behind `\p`, and whether it is negated. -/
def bracedProperty? (text : List Char) : Option (Bool × CharClass) :=
  match cutDiffers text with
  | some (property, value) => (valueClass? property value).map fun c => (true, c)
  | none =>
    match (Text.cutFirst (· == ':') text).or (Text.cutFirst (· == '=') text) with
    | some (property, value) => (valueClass? property value).map fun c => (false, c)
    | none => (propertyClass? text).map fun c => (false, c)

/-- The class that a property behind `\p` names. -/
def propertyEscape (flags : Flags) (negated : Bool) (cs : List Char) : Option (Escaped × Rest) :=
  let escaped (differs : Bool) (c : CharClass) : Escaped :=
    .ofClass (sided (negated != differs) (if flags.ignoreCase then .folded c else c))
  if !flags.unicode then none
  else match cs with
    | '\x7b' :: r =>
      match braced r with
      | some (text, r) => (bracedProperty? text).map fun (differs, c) => (escaped differs c, r)
      | none => none
    | c :: r => (propertyClass? [c]).map fun c => (escaped false c, r)
    | [] => none

/-- Characters that a backslash may stand before to take away their meaning. -/
def isQuotable (c : Char) : Bool :=
  c.toNat < 0x80 && !c.isAlphanum && c != '<' && c != '>'

/-- The conditions that `\b` with a name in braces stands for. -/
def namedLook? : String → Option Look
  | "start" => some .wordStart
  | "end" => some .wordEnd
  | "start-half" => some .wordStartHalf
  | "end-half" => some .wordEndHalf
  | _ => none

def readEscape (flags : Flags) : List Char → Option (Escaped × Rest)
  | [] => none
  | 'x' :: r => hexEscape 2 r
  | 'u' :: r => hexEscape 4 r
  | 'U' :: r => hexEscape 8 r
  | 'p' :: r => propertyEscape flags false r
  | 'P' :: r => propertyEscape flags true r
  | 'a' :: r => some (.char '\x07', r)
  | 'f' :: r => some (.char '\x0c', r)
  | 't' :: r => some (.char '\t', r)
  | 'n' :: r => some (.char '\n', r)
  | 'r' :: r => some (.char '\r', r)
  | 'v' :: r => some (.char '\x0b', r)
  | 'A' :: r => some (.look .start, r)
  | 'z' :: r => some (.look .stop, r)
  | 'b' :: '\x7b' :: r =>
    match braced r with
    | some (name, rest) =>
      match namedLook? (String.ofList name) with
      | some l => some (.look l, rest)
      | none => some (.look .boundary, '\x7b' :: r)
    | none => some (.look .boundary, '\x7b' :: r)
  | 'b' :: r => some (.look .boundary, r)
  | 'B' :: r => some (.look .noBoundary, r)
  | '<' :: r => some (.look .wordStart, r)
  | '>' :: r => some (.look .wordEnd, r)
  | c :: r =>
    match letterClass? flags c with
    | some k => some (.ofClass k, r)
    | none => if isQuotable c then some (.char c, r) else none

/-! ### Classes in brackets -/

/-- Drops blanks and comments where they do not count. -/
def skipSpace (flags : Flags) : List Char → Rest
  | [] => []
  | c :: cs =>
    if !flags.spaced then c :: cs
    else if Text.isBlank c then skipSpace flags cs
    else if c = '#' then dropComment flags cs
    else c :: cs
where
  /-- Drops the rest of a comment. -/
  dropComment (flags : Flags) : List Char → Rest
    | [] => []
    | c :: cs => if c = '\n' then skipSpace flags cs else dropComment flags cs

/-- How a class goes on behind an operator. -/
inductive ClassOp where
  | inter
  | without
  | distinct

def ClassOp.apply : ClassOp → CharClass → CharClass → CharClass
  | inter, a, b => .inter a b
  | without, a, b => CharClass.without a b
  | distinct, a, b => CharClass.distinct a b

/-- The class that is complete so far: the one before the last operator, and what follows it. -/
structure ClassState where
  pending : Option (CharClass × ClassOp) := none
  items : CharClass := .none

def ClassState.result (s : ClassState) : CharClass :=
  match s.pending with
  | some (c, op) => op.apply c s.items
  | none => s.items

def ClassState.add (s : ClassState) (c : CharClass) : ClassState :=
  { s with items := .union s.items c }

def ClassState.operate (s : ClassState) (op : ClassOp) : ClassState :=
  { pending := some (s.result, op), items := .none }

/-- The class `[:name:]` behind its bracket and colon. -/
def readNamed? (cs : List Char) : Option (CharClass × Rest) :=
  let (negated, cs) := match cs with
    | '^' :: r => (true, r)
    | _ => (false, cs)
  match Text.cutFirst (· == ':') cs with
  | some (name, ']' :: r) =>
    (asciiClass? (String.ofList name)).map fun rs => (sided negated (.ranges rs), r)
  | _ => none

/-- One member of a class in brackets: a character or a named class. -/
def readMember (flags : Flags) : List Char → Option (Escaped × Rest)
  | '\\' :: r =>
    match readEscape flags r with
    | some (.look _, _) => none
    | member => member
  | c :: r => some (.char c, r)
  | [] => none

/-- A member, or a range of characters. -/
def readRange (flags : Flags) (cs : List Char) : Option (CharClass × Rest) :=
  match readMember flags cs with
  | none => none
  | some (first, r) =>
    let alone : Option (CharClass × Rest) :=
      match first with
      | .char c => some (.single c, r)
      | .ofClass k => some (k, r)
      | .look _ => none
    match skipSpace flags r with
    | '-' :: r' =>
      match skipSpace flags r' with
      | [] => none
      | ']' :: _ => alone
      | '-' :: _ => alone
      | r' =>
        match first, readMember flags r' with
        | .char a, some (.char b, r) =>
          if a ≤ b then some (.ranges [(a.toNat, b.toNat)], r) else none
        | _, _ => none
    | [] => none
    | _ => alone

/-- The start of a class behind its bracket: whether it is negated, and the leading hyphens and
bracket that stand for themselves. -/
def openClass (flags : Flags) (cs : List Char) : Bool × ClassState × Rest :=
  let cs := skipSpace flags cs
  let (negated, cs) := match cs with
    | '^' :: r => (true, skipSpace flags r)
    | _ => (false, cs)
  let hyphens := cs.takeWhile (· == '-')
  let cs := cs.dropWhile (· == '-')
  let state := hyphens.foldl (fun s c => s.add (.single c)) ({} : ClassState)
  match cs with
  | ']' :: r => if hyphens.isEmpty then (negated, state.add (.single ']'), r) else (negated, state, cs)
  | _ => (negated, state, cs)

/-- The class of all that has been read between brackets. -/
def closeClass (flags : Flags) (negated : Bool) (s : ClassState) : CharClass :=
  sided negated (if flags.ignoreCase then .folded s.result else s.result)

/-- Reads a class up to its closing bracket.  The stack holds the classes around it. -/
def readClass (flags : Flags) :
    Nat → List (Bool × ClassState) → Bool → ClassState → List Char → Option (CharClass × Rest)
  | 0, _, _, _, _ => none
  | fuel + 1, outer, negated, s, cs =>
    match skipSpace flags cs with
    | [] => none
    | ']' :: r =>
      let c := closeClass flags negated s
      match outer with
      | [] => some (c, r)
      | (negated, s) :: outer => readClass flags fuel outer negated (s.add c) r
    | '&' :: '&' :: r => readClass flags fuel outer negated (s.operate .inter) r
    | '-' :: '-' :: r => readClass flags fuel outer negated (s.operate .without) r
    | '~' :: '~' :: r => readClass flags fuel outer negated (s.operate .distinct) r
    | '[' :: r =>
      let named := match r with
        | ':' :: r => readNamed? r
        | _ => none
      match named with
      | some (c, r) => readClass flags fuel outer negated (s.add c) r
      | none =>
        let (negated', s', r) := openClass flags r
        readClass flags fuel ((negated, s) :: outer) negated' s' r
    | cs =>
      match readRange flags cs with
      | some (c, r) => readClass flags fuel outer negated (s.add c) r
      | none => none

/-! ### Groups and repetitions -/

def setFlag (flags : Flags) (letter : Char) (on : Bool) : Option Flags :=
  match letter with
  | 'i' => some { flags with ignoreCase := on }
  | 'm' => some { flags with multiLine := on }
  | 's' => some { flags with dotAll := on }
  | 'R' => some { flags with returns := on }
  | 'u' => some { flags with unicode := on }
  | 'x' => some { flags with spaced := on }
  | 'U' => some flags
  | _ => none

/-- Reads the letters between `(?` and `:` or `)`; no letter may come twice, and a minus must be
followed by one. -/
def readFlags (flags : Flags) (on : Bool) (seen : List Char) :
    List Char → Option (Flags × Bool × Char × Rest)
  | [] => none
  | c :: cs =>
    if c = ':' ∨ c = ')' then
      if seen.head? = some '-' then none else some (flags, !seen.isEmpty, c, cs)
    else if c = '-' then if on then readFlags flags false ('-' :: seen) cs else none
    else if seen.contains c then none
    else match setFlag flags c on with
      | some flags => readFlags flags on (c :: seen) cs
      | none => none

/-- A character of the name of a group. -/
def isNameChar (first : Bool) (c : Char) : Bool :=
  c == '_' || c.isAlpha || 0x80 ≤ c.toNat && Text.letterRanges.has c ||
    !first && (c.isDigit || c == '.' || c == '[' || c == ']' ||
      0x80 ≤ c.toNat && (Text.Category.union ["Nd", "Nl", "No"]).has c)

/-- The name of a group up to its closing angle bracket. -/
def readGroupName (cs : List Char) : Option (String × Rest) :=
  match Text.cutFirst (· == '>') cs with
  | some (c :: name, r) =>
    if isNameChar true c && name.all (isNameChar false) then some (String.ofList (c :: name), r)
    else none
  | _ => none

/-- How a group begins. -/
inductive Opening where
  /-- Flags for the rest of the group around it. -/
  | flags (flags : Flags)
  /-- A group with its flags and its name. -/
  | group (flags : Flags) (name : Option String)

def readOpening (flags : Flags) (cs : List Char) : Option (Opening × Rest) :=
  match skipSpace flags cs with
  | '?' :: 'P' :: '<' :: r => (readGroupName r).map fun (n, r) => (.group flags (some n), r)
  | '?' :: '<' :: r =>
    match r with
    | '=' :: _ => none
    | '!' :: _ => none
    | _ => (readGroupName r).map fun (n, r) => (.group flags (some n), r)
  | '?' :: r =>
    match readFlags flags true [] r with
    | some (flags', some_, ')', r) => if some_ then some (.flags flags', r) else none
    | some (flags', _, _, r) => some (.group flags' none, r)
    | none => none
  | _ => some (.group flags none, cs)

def maxCount : Nat := 0xFFFFFFFF

def readCount (flags : Flags) (cs : List Char) : Option (Nat × Rest) :=
  let cs := skipSpace flags cs
  let digits := cs.takeWhile Char.isDigit
  match Text.readNat? digits with
  | some n =>
    if n ≤ maxCount then some (n, skipSpace flags (cs.dropWhile Char.isDigit)) else none
  | none => none

def readBounds (flags : Flags) (cs : List Char) : Option ((Nat × Option Nat) × Rest) :=
  match readCount flags cs with
  | none => none
  | some (least, r) =>
    match r with
    | '\x7d' :: r => some ((least, some least), r)
    | ',' :: r =>
      match skipSpace flags r with
      | '\x7d' :: r => some ((least, none), r)
      | r =>
        match readCount flags r with
        | some (most, '\x7d' :: r) => if least ≤ most then some ((least, some most), r) else none
        | _ => none
    | _ => none

/-- Drops the question mark that makes a repetition take as little as it can. -/
def dropLazy (flags : Flags) (cs : List Char) : Rest :=
  match skipSpace flags cs with
  | '?' :: r => r
  | _ => cs

/-! ### Sequences -/

/-- A group that has begun: its flags, the alternatives that are complete, and the parts of the one
that is not, last first.  A part without pattern is a change of flags. -/
structure Frame where
  flags : Flags
  alternatives : List Pattern := []
  parts : List (Option Pattern) := []

namespace Frame

/-- The parts behind each other. -/
def sequence (f : Frame) : Pattern :=
  (f.parts.filterMap id).foldl (fun rest p => both p rest) nothing

/-- The pattern of the whole group. -/
def result (f : Frame) : Pattern := f.alternatives.foldl (fun rest p => either p rest) f.sequence

def push (f : Frame) (p : Pattern) : Frame := { f with parts := some p :: f.parts }

/-- Closes an alternative. -/
def bar (f : Frame) : Frame :=
  { f with alternatives := f.sequence :: f.alternatives, parts := [] }

/-- Repeats the last part; there must be one that is a pattern. -/
def repeatLast (f : Frame) (least : Nat) (most : Option Nat) : Option Frame :=
  match f.parts with
  | some p :: ps => some { f with parts := some (times p least most) :: ps }
  | _ => none

end Frame

def literal (flags : Flags) (c : Char) : Pattern :=
  one (if flags.ignoreCase then .folded (.single c) else .single c)

def dot (flags : Flags) : Pattern :=
  if flags.dotAll then one (.ranges [(0, 0x10FFFF)])
  else if flags.returns then one (.complement (.ranges [(0x0A, 0x0A), (0x0D, 0x0D)]))
  else one (.complement (.single '\n'))

def maxDepth : Nat := 250

/-- Reads a pattern to its end, with the groups around the one that has begun and the names of all
groups so far. -/
def readParts : Nat → List Frame → Frame → List String → List Char → Option Pattern
  | 0, _, _, _, _ => none
  | fuel + 1, outer, f, names, cs =>
    match skipSpace f.flags cs with
    | [] => if outer.isEmpty then some f.result else none
    | ')' :: r =>
      match outer with
      | [] => none
      | g :: outer => readParts fuel outer (g.push f.result) names r
    | '|' :: r => readParts fuel outer f.bar names r
    | '(' :: r =>
      match readOpening f.flags r with
      | none => none
      | some (.flags flags, r) =>
        readParts fuel outer { f with flags, parts := none :: f.parts } names r
      | some (.group flags name, r) =>
        if maxDepth ≤ outer.length ∨ (name.map names.contains).getD false then none
        else readParts fuel (f :: outer) { flags } (name.toList ++ names) r
    | '[' :: r =>
      let (negated, s, r) := openClass f.flags r
      match readClass f.flags (r.length + 1) [] negated s r with
      | some (c, r) => readParts fuel outer (f.push (one c)) names r
      | none => none
    | '*' :: r =>
      (f.repeatLast 0 none).bind fun f => readParts fuel outer f names (dropLazy f.flags r)
    | '+' :: r =>
      (f.repeatLast 1 none).bind fun f => readParts fuel outer f names (dropLazy f.flags r)
    | '?' :: r =>
      (f.repeatLast 0 (some 1)).bind fun f => readParts fuel outer f names (dropLazy f.flags r)
    | '\x7b' :: r =>
      match readBounds f.flags r with
      | some ((least, most), r) =>
        (f.repeatLast least most).bind fun f => readParts fuel outer f names (dropLazy f.flags r)
      | none => none
    | '\\' :: r =>
      match readEscape f.flags r with
      | some (.char c, r) => readParts fuel outer (f.push (literal f.flags c)) names r
      | some (.ofClass c, r) => readParts fuel outer (f.push (one c)) names r
      | some (.look l, r) => readParts fuel outer (f.push (look l)) names r
      | none => none
    | '.' :: r => readParts fuel outer (f.push (dot f.flags)) names r
    | '^' :: r =>
      let l := if f.flags.multiLine then Look.lineStart f.flags.returns else .start
      readParts fuel outer (f.push (look l)) names r
    | '$' :: r =>
      let l := if f.flags.multiLine then Look.lineEnd f.flags.returns else .stop
      readParts fuel outer (f.push (look l)) names r
    | c :: r => readParts fuel outer (f.push (literal f.flags c)) names r

def maxSize : Nat := 320000

def read? (s : String) : Option Pattern :=
  let cs := s.toList
  (readParts (cs.length + 1) [] { flags := {} } [] cs).filter fun p => p.size ≤ maxSize

end ApiScribe.Pattern
