import ApiScribe.Text.Blank

/-!
Cutting text at single characters: into pieces, at the first or the last separator, and into lines.
-/

namespace ApiScribe.Text

/-- The pieces between the characters that satisfy `p`; one piece more than there are such
characters. -/
def pieces (p : Char → Bool) : List Char → List (List Char)
  | [] => [[]]
  | c :: cs =>
    if p c then [] :: pieces p cs
    else match pieces p cs with
      | [] => [[c]]
      | w :: ws => (c :: w) :: ws

/-- The text before and behind the first character that satisfies `p`. -/
def cutFirst (p : Char → Bool) : List Char → Option (List Char × List Char)
  | [] => none
  | c :: cs => if p c then some ([], cs) else (cutFirst p cs).map fun (a, b) => (c :: a, b)

def cutLast (p : Char → Bool) : List Char → Option (List Char × List Char)
  | [] => none
  | c :: cs =>
    match cutLast p cs with
    | some (a, b) => some (c :: a, b)
    | none => if p c then some ([], cs) else none

/-- The pieces of a string between the occurrences of `sep`. -/
def splitOn (sep : Char) (s : String) : List String :=
  (pieces (· == sep) s.toList).map String.ofList

def splitLast (sep : Char) (s : String) : Option (String × String) :=
  (cutLast (· == sep) s.toList).map fun (a, b) => (String.ofList a, String.ofList b)

def occurs (needle : List Char) : List Char → Bool
  | [] => needle.isEmpty
  | c :: cs => needle.isPrefixOf (c :: cs) || occurs needle cs

/-- Drops one carriage return from the end. -/
def dropReturn (cs : List Char) : List Char :=
  if cs.getLast? = some '\r' then cs.dropLast else cs

/-- The lines of a text: a line feed, or a carriage return and a line feed, ends a line, and no
empty line follows the last end. -/
def lines (cs : List Char) : List (List Char) :=
  let ws := pieces (· == '\n') cs
  let closed := ws.dropLast.map dropReturn
  match ws.getLast? with
  | some (c :: r) => closed ++ [c :: r]
  | _ => closed

theorem occurs_iff {needle cs : List Char} : occurs needle cs = true ↔ needle <:+: cs := by
  induction cs with
  | nil => simp [occurs]
  | cons c cs ih =>
    rw [occurs, Bool.or_eq_true, ih, List.isPrefixOf_iff_prefix, List.infix_cons_iff]

/-! ### What a cut keeps -/

theorem pieces_eq_splitOnP (p : Char → Bool) (cs : List Char) : pieces p cs = cs.splitOnP p := by
  induction cs with
  | nil => rfl
  | cons c cs ih =>
    rw [List.splitOnP_cons_eq_if_modifyHead, ← ih, pieces]
    split
    · rfl
    · cases h : pieces p cs with
      | nil => exact absurd (ih.symm.trans h) (List.splitOnP_ne_nil p cs)
      | cons w ws => rfl

theorem splitOn_eq (sep : Char) (s : String) :
    splitOn sep s = (s.toList.splitOn sep).map String.ofList := by
  unfold splitOn
  rw [pieces_eq_splitOnP, List.splitOn_eq_splitOnP]

theorem not_of_mem_pieces {p : Char → Bool} {cs w : List Char} (h : w ∈ pieces p cs) :
    ∀ c ∈ w, p c = false := by
  induction cs generalizing w with
  | nil =>
    obtain rfl := List.mem_singleton.mp h
    simp
  | cons c cs ih =>
    unfold pieces at h
    split at h
    · rcases List.mem_cons.mp h with rfl | h
      · simp
      · exact ih h
    · rename_i hc
      have hc : p c = false := by simpa using hc
      split at h
      · obtain rfl := List.mem_singleton.mp h
        simpa using hc
      · rename_i v ws hpieces
        rcases List.mem_cons.mp h with rfl | h
        · exact List.forall_mem_cons.mpr ⟨hc, ih (hpieces ▸ List.mem_cons_self)⟩
        · exact ih (hpieces ▸ List.mem_cons_of_mem _ h)

/-- The first cut leaves nothing before it to cut at. -/
theorem cutFirst_eq_some_iff {p : Char → Bool} {cs a b : List Char} :
    cutFirst p cs = some (a, b) ↔ ∃ c, p c = true ∧ cs = a ++ c :: b ∧ ∀ x ∈ a, p x = false := by
  induction cs generalizing a with
  | nil => simp [cutFirst]
  | cons x xs ih =>
    unfold cutFirst
    cases hx : p x with
    | true =>
      rw [if_pos rfl]
      constructor
      · intro h
        cases h
        exact ⟨x, hx, rfl, fun _ h => nomatch h⟩
      · rintro ⟨c, hc, heq, ha⟩
        cases a with
        | nil =>
          cases heq
          rfl
        | cons y a =>
          obtain ⟨rfl, -⟩ := List.cons.inj heq
          cases hx.symm.trans (ha x List.mem_cons_self)
    | false =>
      rw [if_neg Bool.false_ne_true, Option.map_eq_some_iff]
      constructor
      · rintro ⟨⟨a', b'⟩, hcut, heq⟩
        cases heq
        obtain ⟨c, hc, rfl, ha⟩ := ih.mp hcut
        exact ⟨c, hc, rfl, List.forall_mem_cons.mpr ⟨hx, ha⟩⟩
      · rintro ⟨c, hc, heq, ha⟩
        cases a with
        | nil =>
          cases heq
          cases hx.symm.trans hc
        | cons y a =>
          obtain ⟨rfl, rfl⟩ := List.cons.inj heq
          exact ⟨(a, b), ih.mpr ⟨c, hc, rfl, (List.forall_mem_cons.mp ha).2⟩, rfl⟩

theorem cutLast_eq_none_iff {p : Char → Bool} {cs : List Char} :
    cutLast p cs = none ↔ ∀ c ∈ cs, p c = false := by
  induction cs with
  | nil => simp [cutLast]
  | cons x xs ih =>
    unfold cutLast
    cases hcut : cutLast p xs with
    | some found =>
      have hsome : ¬ ∀ c ∈ xs, p c = false := fun h => nomatch hcut.symm.trans (ih.mpr h)
      simp [hsome]
    | none =>
      have hnone := ih.mp hcut
      simpa using fun _ => hnone

/-- The last cut leaves nothing behind it to cut at. -/
theorem cutLast_eq_some_iff {p : Char → Bool} {cs a b : List Char} :
    cutLast p cs = some (a, b) ↔
      ∃ c, p c = true ∧ cs = a ++ c :: b ∧ ∀ x ∈ b, p x = false := by
  induction cs generalizing a b with
  | nil => simp [cutLast]
  | cons x xs ih =>
    unfold cutLast
    cases hcut : cutLast p xs with
    | some found =>
      obtain ⟨a', b'⟩ := found
      obtain ⟨c', hc', rfl, hb'⟩ := ih.mp hcut
      constructor
      · intro h
        cases h
        exact ⟨c', hc', rfl, hb'⟩
      · rintro ⟨c, hc, heq, hb⟩
        cases a with
        | nil =>
          obtain ⟨rfl, rfl⟩ := List.cons.inj heq
          have hlast := hb c' (by simp)
          rw [hc'] at hlast
          cases hlast
        | cons y a =>
          obtain ⟨rfl, htail⟩ := List.cons.inj heq
          have hsame := ih.mpr ⟨c, hc, htail, hb⟩
          rw [hcut] at hsame
          cases hsame
          rfl
    | none =>
      have hnone := cutLast_eq_none_iff.mp hcut
      constructor
      · intro h
        obtain ⟨hx, heq⟩ := Option.ite_none_right_eq_some.mp h
        cases heq
        exact ⟨x, hx, rfl, hnone⟩
      · rintro ⟨c, hc, heq, hb⟩
        cases a with
        | nil =>
          obtain ⟨rfl, rfl⟩ := List.cons.inj heq
          exact if_pos hc
        | cons y a =>
          obtain ⟨rfl, rfl⟩ := List.cons.inj heq
          rw [hnone c (by simp)] at hc
          cases hc

theorem splitLast_eq_none_iff {sep : Char} {s : String} :
    splitLast sep s = none ↔ sep ∉ s.toList := by
  unfold splitLast
  rw [Option.map_eq_none_iff, cutLast_eq_none_iff]
  constructor
  · intro h hsep
    simpa using h sep hsep
  · intro h c hc
    simpa using fun heq : c = sep => h (heq ▸ hc)

theorem splitLast_eq_some_iff {sep : Char} {s a b : String} :
    splitLast sep s = some (a, b) ↔ s = a ++ String.singleton sep ++ b ∧ sep ∉ b.toList := by
  have hlist : s = a ++ String.singleton sep ++ b ↔ s.toList = a.toList ++ sep :: b.toList := by
    rw [← String.toList_inj]
    simp
  unfold splitLast
  rw [Option.map_eq_some_iff, hlist]
  constructor
  · rintro ⟨⟨as, bs⟩, hcut, heq⟩
    obtain ⟨c, hc, hs, hb⟩ := cutLast_eq_some_iff.mp hcut
    cases heq
    obtain rfl : c = sep := by simpa using hc
    refine ⟨by simpa using hs, fun hmem => ?_⟩
    simpa using hb c (by simpa using hmem)
  · rintro ⟨hs, hb⟩
    refine ⟨(a.toList, b.toList), cutLast_eq_some_iff.mpr ⟨sep, by simp, hs, ?_⟩, by simp⟩
    intro x hx
    simpa using fun heq : x = sep => hb (heq ▸ hx)

end ApiScribe.Text
