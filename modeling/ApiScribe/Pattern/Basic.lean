import ApiScribe.Pattern.CharClass

/-!
Patterns and what they match.  A pattern matches at a place of a text and ends at some places behind
it; a text is matched if the pattern ends anywhere, from wherever it starts.
-/

namespace ApiScribe

/-- Conditions on a place that take no character. -/
inductive Look where
  | start
  | stop
  /-- The start of a line; the flag tells whether carriage returns end lines too. -/
  | lineStart (returns : Bool)
  | lineEnd (returns : Bool)
  /-- A place where a word starts or ends. -/
  | boundary
  | noBoundary
  | wordStart
  | wordEnd
  /-- A place with no character of a word before it. -/
  | wordStartHalf
  | wordEndHalf
  deriving DecidableEq, Repr, Inhabited

inductive Pattern where
  /-- The empty text. -/
  | nothing
  /-- No text. -/
  | never
  | one (c : CharClass)
  | look (l : Look)
  | both (a b : Pattern)
  | either (a b : Pattern)
  /-- At least `least` times, and at most `most` times if given. -/
  | times (p : Pattern) (least : Nat) (most : Option Nat)
  deriving DecidableEq, Repr, Inhabited

structure Place where
  /-- The characters before the place, the nearest first. -/
  before : List Char
  after : List Char
  deriving DecidableEq, Repr

namespace Place

def startOf (cs : List Char) : Place := ⟨[], cs⟩

/-- The place behind the next character. -/
def next? (p : Place) : Option (Char × Place) :=
  match p.after with
  | c :: cs => some (c, ⟨c :: p.before, cs⟩)
  | [] => none

/-- The places from the given one on, given as many steps as there are characters behind it. -/
def onward : List Char → List Char → List Place
  | before, [] => [⟨before, []⟩]
  | before, c :: cs => ⟨before, c :: cs⟩ :: onward (c :: before) cs

def distinct : List Place → List Place
  | [] => []
  | p :: ps =>
    let rest := distinct ps
    if rest.any fun q => q.after.length == p.after.length then rest else p :: rest

/-- Whether a character of a word comes first in a list. -/
def startsWord (cs : List Char) : Bool := (cs.head?.map Text.isWordChar).getD false

end Place

/-- Whether a condition holds at a place. -/
def Look.holds (l : Look) (p : Place) : Bool :=
  let before := Place.startsWord p.before
  let after := Place.startsWord p.after
  match l with
  | start => p.before.isEmpty
  | stop => p.after.isEmpty
  | lineStart returns =>
    p.before.isEmpty || p.before.head? == some '\n' ||
      (returns && p.before.head? == some '\r' && p.after.head? != some '\n')
  | lineEnd returns =>
    if returns then
      p.after.isEmpty || p.after.head? == some '\r' ||
        (p.after.head? == some '\n' && p.before.head? != some '\r')
    else p.after.isEmpty || p.after.head? == some '\n'
  | boundary => before != after
  | noBoundary => before == after
  | wordStart => !before && after
  | wordEnd => before && !after
  | wordStartHalf => !before
  | wordEndHalf => !after

namespace Pattern

/-- The places after exactly `n` steps. -/
def steps (f : Place → List Place) : Nat → List Place → List Place
  | 0, ps => ps
  | n + 1, ps => if ps.isEmpty then [] else steps f n (Place.distinct (ps.flatMap f))

/-- The places after at most `n` steps. -/
def spread (f : Place → List Place) : Nat → List Place → List Place
  | 0, ps => ps
  | n + 1, ps =>
    let all := Place.distinct (ps ++ ps.flatMap f)
    if all.length ≤ ps.length then ps else spread f n all

/-- The places where a match that starts at a place ends. -/
def ends : Pattern → Place → List Place
  | nothing, p => [p]
  | never, _ => []
  | one c, p =>
    match p.next? with
    | some (x, q) => if c.has x then [q] else []
    | none => []
  | look l, p => if l.holds p then [p] else []
  | both a b, p => Place.distinct ((ends a p).flatMap (ends b))
  | either a b, p => Place.distinct (ends a p ++ ends b p)
  | times a least most, p =>
    let begun := steps (ends a) least [p]
    match most with
    | some most => spread (ends a) (min (most - least) (p.after.length + 1)) begun
    | none => spread (ends a) (p.after.length + 1) begun

/-- Whether a pattern matches somewhere in a text. -/
def matchesText (p : Pattern) (s : String) : Bool :=
  (Place.onward [] s.toList).any fun q => !(p.ends q).isEmpty

/-- How much room a pattern takes when it is compiled, in states. -/
def size : Pattern → Nat
  | nothing | never => 0
  | one c => c.size
  | look _ => 1
  | both a b => a.size + b.size
  | either a b => a.size + b.size + 1
  | times a least most =>
    match most with
    | some most => max least most * (a.size + 1)
    | none => (least + 1) * (a.size + 1)

end Pattern

end ApiScribe
