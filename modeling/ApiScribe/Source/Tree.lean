/-!
Token trees: a sequence of tokens in which brackets that belong together enclose a group.
-/

namespace ApiScribe

/-- The kinds of brackets. -/
inductive Delimiter where
  | paren
  | bracket
  | brace
  deriving DecidableEq, Repr, Inhabited

/-- A token, or what stands between two brackets. -/
inductive Tree (α : Type u) where
  | leaf (token : α)
  | group (delimiter : Delimiter) (opening closing : α) (items : List (Tree α))
  deriving Repr, Inhabited

/-- What a token does to the nesting. -/
inductive Nesting where
  | opens (d : Delimiter)
  | closes (d : Delimiter)
  | none
  deriving DecidableEq, Repr

namespace Tree

variable {α : Type u}

def first : Tree α → α
  | leaf t => t
  | group _ o _ _ => o

def last : Tree α → α
  | leaf t => t
  | group _ _ c _ => c

/-- A group whose closing bracket has not come yet: its opening bracket, and the trees before it,
last first. -/
structure Pending (α : Type u) where
  delimiter : Delimiter
  opening : α
  before : List (Tree α)

/-- Groups tokens, given the pending groups and the trees of the innermost one, last first. -/
def grow (nesting : α → Nesting) : List α → List (Pending α) → List (Tree α) → Option (List (Tree α))
  | [], [], done => some done.reverse
  | [], _ :: _, _ => none
  | t :: ts, pending, done =>
    match nesting t with
    | .none => grow nesting ts pending (leaf t :: done)
    | .opens d => grow nesting ts (⟨d, t, done⟩ :: pending) []
    | .closes d =>
      match pending with
      | [] => none
      | p :: pending =>
        if p.delimiter = d then
          grow nesting ts pending (group d p.opening t done.reverse :: p.before)
        else none

/-- Groups tokens; brackets that do not match have no trees. -/
def ofTokens? (nesting : α → Nesting) (ts : List α) : Option (List (Tree α)) := grow nesting ts [] []

/-! ### Brackets that do not match -/

/-- Closes a pending group without a bracket, behind the last token in it. -/
def Pending.shut (p : Pending α) (done : List (Tree α)) : List (Tree α) :=
  group p.delimiter p.opening ((done.head?.map last).getD p.opening) done.reverse :: p.before

/-- Closes all pending groups without brackets. -/
def shutAll : List (Pending α) → List (Tree α) → List (Tree α)
  | [], done => done
  | p :: pending, done => shutAll pending (p.shut done)

/-- Closes the innermost pending group of one kind with its bracket, and those in it without. -/
def closeAt? (d : Delimiter) (closing : α) :
    List (Pending α) → List (Tree α) → Option (List (Pending α) × List (Tree α))
  | [], _ => none
  | p :: pending, done =>
    if p.delimiter = d then some (pending, group d p.opening closing done.reverse :: p.before)
    else closeAt? d closing pending (p.shut done)

/-- Groups tokens as `grow` does, whatever brackets are missing: a closing bracket that no pending
group waits for is passed over. -/
def mend (nesting : α → Nesting) : List α → List (Pending α) → List (Tree α) → List (Tree α)
  | [], pending, done => (shutAll pending done).reverse
  | t :: ts, pending, done =>
    match nesting t with
    | .none => mend nesting ts pending (leaf t :: done)
    | .opens d => mend nesting ts (⟨d, t, done⟩ :: pending) []
    | .closes d =>
      match closeAt? d t pending done with
      | some (pending, done) => mend nesting ts pending done
      | none => mend nesting ts pending done

/-- Groups tokens; where brackets do not match, they are made to. -/
def ofTokens (nesting : α → Nesting) (ts : List α) : List (Tree α) := mend nesting ts [] []

def nestingOf (c : Char) : Nesting :=
  match c with
  | '(' => .opens .paren
  | ')' => .closes .paren
  | '[' => .opens .bracket
  | ']' => .closes .bracket
  | '\x7b' => .opens .brace
  | '\x7d' => .closes .brace
  | _ => .none

section

variable [DecidableEq α]

mutual

def decEq : (t u : Tree α) → Decidable (t = u)
  | leaf a, leaf b => decidable_of_decidable_of_iff (p := a = b) (by simp)
  | group d a b ts, group d' a' b' us =>
    match decEqAll ts us with
    | isTrue h => decidable_of_decidable_of_iff (p := d = d' ∧ a = a' ∧ b = b') (by simp [h])
    | isFalse h => isFalse (by simp [h])
  | leaf _, group _ _ _ _ => isFalse nofun
  | group _ _ _ _, leaf _ => isFalse nofun

def decEqAll : (ts us : List (Tree α)) → Decidable (ts = us)
  | [], [] => isTrue rfl
  | t :: ts, u :: us =>
    match decEq t u, decEqAll ts us with
    | isTrue h, isTrue hs => isTrue (by rw [h, hs])
    | isFalse h, _ => isFalse (by simp [h])
    | _, isFalse hs => isFalse (by simp [hs])
  | [], _ :: _ => isFalse nofun
  | _ :: _, [] => isFalse nofun

end

instance : DecidableEq (Tree α) := decEq

end

end Tree

/-- The runs of a list between the elements that satisfy `p`. -/
def splitRuns (p : α → Bool) : List α → List (List α)
  | [] => [[]]
  | x :: xs =>
    if p x then [] :: splitRuns p xs
    else match splitRuns p xs with
      | [] => [[x]]
      | r :: rs => (x :: r) :: rs

end ApiScribe
