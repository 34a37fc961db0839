import ApiScribe.Source.Tree

/-!
Grammars over token trees.  A rule matches a beginning of a list of trees; of two alternatives the
first that matches counts, and a repetition takes all it can.  What a named rule has matched becomes
a phrase of its own.
-/

namespace ApiScribe

/-- What a rule has matched: a tree as it stands, or the parts of a named rule. -/
inductive Phrase (κ α : Type) where
  | leaf (tree : Tree α)
  | node (kind : κ) (parts : List (Phrase κ α))
  deriving Inhabited

/-- A rule of a grammar with the names `κ` over tokens `α`. -/
inductive Rule (κ α : Type) where
  /-- Nothing. -/
  | nothing
  /-- One tree. -/
  | one (p : Tree α → Bool)
  /-- A group whose inside is matched to its end. -/
  | within (d : Delimiter) (r : Rule κ α)
  | both (a b : Rule κ α)
  | either (a b : Rule κ α)
  | many (r : Rule κ α)
  /-- What follows matches, but is not taken. -/
  | ahead (r : Rule κ α)
  /-- What follows does not match. -/
  | absent (r : Rule κ α)
  /-- No tree follows. -/
  | stop
  | call (k : κ)

/-- Matches a beginning of some trees: the phrases for it, and the trees behind it. -/
abbrev Reader (κ α : Type) := List (Tree α) → Option (List (Phrase κ α) × List (Tree α))

namespace Rule

variable {κ α : Type}

instance : Append (Rule κ α) := ⟨both⟩

def oneOf : List (Rule κ α) → Rule κ α
  | [] => absent nothing
  | [r] => r
  | r :: rs => either r (oneOf rs)

def inOrder : List (Rule κ α) → Rule κ α
  | [] => nothing
  | [r] => r
  | r :: rs => both r (inOrder rs)

def opt (r : Rule κ α) : Rule κ α := either r nothing

/-- Any number of `r` with `sep` between them, and perhaps behind the last. -/
def list (r sep : Rule κ α) : Rule κ α := opt (r ++ many (sep ++ r) ++ opt sep)

/-- At least one `r`, with `sep` between them. -/
def chain (r sep : Rule κ α) : Rule κ α := r ++ many (sep ++ r)

/-- Matches up to `n` times. -/
def repeatedly (r : Reader κ α) : Nat → Reader κ α
  | 0, ts => some ([], ts)
  | n + 1, ts =>
    match r ts with
    | none => some ([], ts)
    | some (ps, ts) => (repeatedly r n ts).map fun (qs, ts) => (ps ++ qs, ts)

/-- Matches a rule, given what its names stand for. -/
def run (names : κ → Reader κ α) : Rule κ α → Reader κ α
  | nothing, ts => some ([], ts)
  | one p, ts =>
    match ts with
    | t :: ts => if p t then some ([.leaf t], ts) else none
    | [] => none
  | within d r, ts =>
    match ts with
    | .group d' _ _ items :: ts =>
      if d' = d then
        match run names r items with
        | some (ps, []) => some (ps, ts)
        | _ => none
      else none
    | _ => none
  | both a b, ts =>
    match run names a ts with
    | none => none
    | some (ps, ts) => (run names b ts).map fun (qs, ts) => (ps ++ qs, ts)
  | either a b, ts =>
    match run names a ts with
    | none => run names b ts
    | some r => some r
  | many r, ts => repeatedly (run names r) ts.length ts
  | ahead r, ts => if (run names r ts).isSome then some ([], ts) else none
  | absent r, ts => if (run names r ts).isSome then none else some ([], ts)
  | stop, ts => if ts.isEmpty then some ([], ts) else none
  | call k, ts => names k ts

end Rule

/-- A grammar: a rule for each name. -/
abbrev Grammar (κ α : Type) := κ → Rule κ α

/-- Matches a name, with names inside each other up to the given depth. -/
def Grammar.read {κ α : Type} (g : Grammar κ α) : Nat → κ → Reader κ α
  | 0, _, _ => none
  | depth + 1, k, ts =>
    ((g k).run (g.read depth) ts).map fun (ps, ts) => ([.node k ps], ts)

namespace Phrase

variable {κ α : Type}

def parts : Phrase κ α → List (Phrase κ α)
  | leaf _ => []
  | node _ ps => ps

def kind? : Phrase κ α → Option κ
  | leaf _ => none
  | node k _ => some k

def tree? : Phrase κ α → Option (Tree α)
  | leaf t => some t
  | node _ _ => none

def isA [DecidableEq κ] (k : κ) (p : Phrase κ α) : Bool := p.kind? == some k

/-- The parts with a given name. -/
def all [DecidableEq κ] (k : κ) (p : Phrase κ α) : List (Phrase κ α) := p.parts.filter (isA k)

/-- The first part with a given name. -/
def first? [DecidableEq κ] (k : κ) (p : Phrase κ α) : Option (Phrase κ α) := p.parts.find? (isA k)

/-- The trees that stand directly in a phrase. -/
def trees (p : Phrase κ α) : List (Tree α) := p.parts.filterMap tree?

section

variable [DecidableEq κ] [DecidableEq α]

mutual

def decEq : (p q : Phrase κ α) → Decidable (p = q)
  | leaf t, leaf u => decidable_of_decidable_of_iff (p := t = u) (by simp)
  | node k ps, node k' qs =>
    match decEqAll ps qs with
    | isTrue h => decidable_of_decidable_of_iff (p := k = k') (by simp [h])
    | isFalse h => isFalse (by simp [h])
  | leaf _, node _ _ => isFalse nofun
  | node _ _, leaf _ => isFalse nofun

def decEqAll : (ps qs : List (Phrase κ α)) → Decidable (ps = qs)
  | [], [] => isTrue rfl
  | p :: ps, q :: qs =>
    match decEq p q, decEqAll ps qs with
    | isTrue h, isTrue hs => isTrue (by rw [h, hs])
    | isFalse h, _ => isFalse (by simp [h])
    | _, isFalse hs => isFalse (by simp [hs])
  | [], _ :: _ => isFalse nofun
  | _ :: _, [] => isFalse nofun

end

instance : DecidableEq (Phrase κ α) := decEq

end

end Phrase

end ApiScribe
