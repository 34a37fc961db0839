import ApiScribe.Source.Grammar
import Mathlib.Order.Lattice

/-!
# Phrases that a grammar makes

* `Rule.gives_run` — what holds of single trees, and of what the names that a rule calls stand for,
  holds of all phrases that the rule matches;
* `Grammar.Makes` — a phrase that some name of a grammar matches: its parts are named as the rule of
  the name calls them (`Grammar.Makes.part`), and so on for all that stands inside it
  (`Phrase.Within`, `Grammar.Makes.within`);
* `Grammar.height_read` — phrases that are read with some depth are at most that high.
-/

namespace ApiScribe

/-! ### What holds of all phrases of a reader -/

/-- All phrases that a reader makes satisfy `P`. -/
def Reader.Gives {κ α : Type} (r : Reader κ α) (P : Phrase κ α → Prop) : Prop :=
  ∀ {ts ps rest}, r ts = some (ps, rest) → ∀ p ∈ ps, P p

namespace Rule

variable {κ α : Type} {names : κ → Reader κ α} {P : Phrase κ α → Prop}

/-- The names whose phrases are among those of a rule. -/
def calls : Rule κ α → List κ
  | within _ r | many r => calls r
  | both a b | either a b => calls a ++ calls b
  | call k => [k]
  | nothing | one _ | ahead _ | absent _ | stop => []

theorem run_both {a b : Rule κ α} {ts rest : List (Tree α)} {ps : List (Phrase κ α)}
    (h : run names (both a b) ts = some (ps, rest)) :
    ∃ qs ts' rs, run names a ts = some (qs, ts') ∧ run names b ts' = some (rs, rest) ∧
      ps = qs ++ rs := by
  unfold run at h
  split at h
  · cases h
  · rename_i qs ts' ha
    obtain ⟨⟨rs, rest'⟩, hb, heq⟩ := Option.map_eq_some_iff.mp h
    cases heq
    exact ⟨qs, ts', rs, ha, hb, rfl⟩

theorem run_either {a b : Rule κ α} {ts : List (Tree α)} {x : List (Phrase κ α) × List (Tree α)}
    (h : run names (either a b) ts = some x) : run names a ts = some x ∨ run names b ts = some x := by
  unfold run at h
  split at h
  · exact Or.inr h
  · rename_i ha
    exact Or.inl (ha.trans h)

theorem run_oneOf {rs : List (Rule κ α)} {ts : List (Tree α)}
    {x : List (Phrase κ α) × List (Tree α)} (h : run names (oneOf rs) ts = some x) :
    ∃ r ∈ rs, run names r ts = some x := by
  induction rs with
  | nil => cases h
  | cons r rs ih =>
    cases rs with
    | nil => exact ⟨r, List.mem_singleton_self r, h⟩
    | cons r' rs =>
      rcases run_either h with h | h
      · exact ⟨r, List.mem_cons_self, h⟩
      · obtain ⟨s, hs, hrun⟩ := ih h
        exact ⟨s, List.mem_cons_of_mem _ hs, hrun⟩

theorem gives_repeatedly {r : Reader κ α} (h : r.Gives P) (n : ℕ) : (repeatedly r n).Gives P := by
  induction n with
  | zero =>
    intro ts ps rest hrun p hp
    cases hrun
    cases hp
  | succ n ih =>
    intro ts ps rest hrun p hp
    unfold repeatedly at hrun
    split at hrun
    · cases hrun
      cases hp
    · rename_i hr
      obtain ⟨⟨qs, rest'⟩, hrest, heq⟩ := Option.map_eq_some_iff.mp hrun
      cases heq
      rcases List.mem_append.mp hp with hp | hp
      · exact h hr p hp
      · exact ih hrest p hp

/-- **What holds of single trees, and of all that the names of a rule stand for, holds of all that
the rule matches.** -/
theorem gives_run (hleaf : ∀ t, P (.leaf t)) (r : Rule κ α) (h : ∀ k ∈ r.calls, (names k).Gives P) :
    Reader.Gives (run names r) P := by
  induction r with
  | nothing =>
    intro ts ps rest hrun p hp
    cases hrun
    cases hp
  | one accepts =>
    intro ts ps rest hrun p hp
    unfold run at hrun
    split at hrun
    · split at hrun
      · cases hrun
        rw [List.mem_singleton.mp hp]
        exact hleaf _
      · cases hrun
    · cases hrun
  | within d r ih =>
    intro ts ps rest hrun p hp
    unfold run at hrun
    split at hrun
    · split at hrun
      · split at hrun
        · rename_i hinside
          cases hrun
          exact ih h hinside p hp
        · cases hrun
      · cases hrun
    · cases hrun
  | both a b iha ihb =>
    intro ts ps rest hrun p hp
    obtain ⟨qs, ts', rs, ha, hb, rfl⟩ := run_both hrun
    rcases List.mem_append.mp hp with hp | hp
    · exact iha (fun k hk => h k (List.mem_append_left _ hk)) ha p hp
    · exact ihb (fun k hk => h k (List.mem_append_right _ hk)) hb p hp
  | either a b iha ihb =>
    intro ts ps rest hrun p hp
    rcases run_either hrun with hrun | hrun
    · exact iha (fun k hk => h k (List.mem_append_left _ hk)) hrun p hp
    · exact ihb (fun k hk => h k (List.mem_append_right _ hk)) hrun p hp
  | many r ih => exact gives_repeatedly (ih h) _
  | ahead r ih =>
    intro ts ps rest hrun p hp
    unfold run at hrun
    split at hrun
    · cases hrun
      cases hp
    · cases hrun
  | absent r ih =>
    intro ts ps rest hrun p hp
    unfold run at hrun
    split at hrun
    · cases hrun
    · cases hrun
      cases hp
  | stop =>
    intro ts ps rest hrun p hp
    unfold run at hrun
    split at hrun
    · cases hrun
      cases hp
    · cases hrun
  | call k => exact h k (List.mem_singleton_self k)

end Rule

/-! ### Heights -/

namespace Phrase

variable {κ α : Type}

mutual

/-- How many names are inside each other in a phrase. -/
def height : Phrase κ α → ℕ
  | leaf _ => 0
  | node _ ps => heightOf ps + 1

/-- How many names are inside each other in some phrases. -/
def heightOf : List (Phrase κ α) → ℕ
  | [] => 0
  | p :: ps => max p.height (heightOf ps)

end

@[simp] theorem height_leaf (t : Tree α) : (leaf t : Phrase κ α).height = 0 := by simp [height]

@[simp] theorem height_node (k : κ) (ps : List (Phrase κ α)) :
    (node k ps).height = heightOf ps + 1 := by simp [height]

theorem heightOf_le_iff {ps : List (Phrase κ α)} {n : ℕ} :
    heightOf ps ≤ n ↔ ∀ p ∈ ps, p.height ≤ n := by
  induction ps with
  | nil => simp [heightOf]
  | cons p ps ih => simp [heightOf, ih]

theorem height_lt_of_mem_parts {p q : Phrase κ α} (h : q ∈ p.parts) : q.height < p.height := by
  cases p with
  | leaf t => cases h
  | node k ps =>
    have hle : q.height ≤ heightOf ps := heightOf_le_iff.mp le_rfl q h
    rw [height_node]
    omega

theorem height_pos_of_isA [DecidableEq κ] {k : κ} {p : Phrase κ α} (h : p.isA k = true) :
    0 < p.height := by
  cases p with
  | leaf t => simp [isA, kind?] at h
  | node k' ps => simp

/-! ### Phrases inside others -/

/-- A phrase itself, or one inside it. -/
inductive Within : Phrase κ α → Phrase κ α → Prop
  | here {p : Phrase κ α} : Within p p
  | inside {p q r : Phrase κ α} (hq : q ∈ r.parts) (hp : Within p q) : Within p r

theorem Within.trans {p q r : Phrase κ α} (hp : p.Within q) (hq : q.Within r) : p.Within r := by
  induction hq with
  | here => exact hp
  | inside hr hq ih => exact .inside hr ih

theorem within_of_mem_parts {p q : Phrase κ α} (h : p ∈ q.parts) : p.Within q := .inside h .here

end Phrase

namespace Grammar

variable {κ α : Type} {g : Grammar κ α}

theorem height_read (g : Grammar κ α) (depth : ℕ) (k : κ) :
    (g.read depth k).Gives fun p => p.height ≤ depth := by
  induction depth generalizing k with
  | zero => exact fun h => nomatch h
  | succ depth ih =>
    intro ts ps rest h p hp
    obtain ⟨⟨qs, rest'⟩, hrun, heq⟩ := Option.map_eq_some_iff.mp h
    cases heq
    have hqs := Rule.gives_run (by simp) (g k) (fun k _ => ih k) hrun
    rw [List.mem_singleton.mp hp, Phrase.height_node]
    have hle := Phrase.heightOf_le_iff.mpr hqs
    omega

/-! ### Phrases that a grammar makes -/

/-- A phrase that a name of the grammar matches. -/
def Makes (g : Grammar κ α) (p : Phrase κ α) : Prop :=
  ∃ depth k ts rest, g.read depth k ts = some ([p], rest)

theorem exists_node_of_read {depth : ℕ} {k : κ} {ts rest : List (Tree α)} {ps : List (Phrase κ α)}
    (h : g.read depth k ts = some (ps, rest)) : ∃ qs, ps = [.node k qs] ∧ g.Makes (.node k qs) := by
  cases depth with
  | zero => cases h
  | succ depth =>
    obtain ⟨⟨qs, rest'⟩, hrun, heq⟩ := Option.map_eq_some_iff.mp h
    cases heq
    exact ⟨qs, rfl, depth + 1, k, ts, _, h⟩

theorem Makes.exists_run {k : κ} {ps : List (Phrase κ α)} (h : g.Makes (.node k ps)) :
    ∃ depth ts rest, (g k).run (g.read depth) ts = some (ps, rest) := by
  obtain ⟨depth, k', ts, rest, h⟩ := h
  cases depth with
  | zero => cases h
  | succ depth =>
    obtain ⟨⟨qs, rest'⟩, hrun, heq⟩ := Option.map_eq_some_iff.mp h
    cases heq
    exact ⟨depth, ts, _, hrun⟩

/-- What a rule matches has names that the rule calls, and the grammar makes it. -/
theorem makes_of_run {r : Rule κ α} {depth : ℕ} {ts rest : List (Tree α)} {ps : List (Phrase κ α)}
    (h : r.run (g.read depth) ts = some (ps, rest)) {q : Phrase κ α} (hq : q ∈ ps) {k : κ}
    (hk : q.kind? = some k) : k ∈ r.calls ∧ g.Makes q := by
  have hparts : ∀ p ∈ ps, ∀ k, p.kind? = some k → k ∈ r.calls ∧ g.Makes p := by
    refine Rule.gives_run (fun t k h => nomatch h) r ?_ h
    intro j hj ts ps rest hread p hp k hk
    obtain ⟨qs, rfl, hmakes⟩ := exists_node_of_read hread
    obtain rfl := List.mem_singleton.mp hp
    cases hk
    exact ⟨hj, hmakes⟩
  exact hparts q hq k hk

/-- **The named parts of a phrase have names that its rule calls, and the grammar makes them too.** -/
theorem Makes.part {k k' : κ} {ps : List (Phrase κ α)} (h : g.Makes (.node k ps)) {q : Phrase κ α}
    (hq : q ∈ ps) (hk' : q.kind? = some k') : k' ∈ (g k).calls ∧ g.Makes q := by
  obtain ⟨depth, ts, rest, hrun⟩ := h.exists_run
  exact makes_of_run hrun hq hk'

theorem Makes.within {p q : Phrase κ α} (h : q.Within p) (hmakes : g.Makes p) {k : κ}
    (hk : q.kind? = some k) : g.Makes q := by
  induction h with
  | here => exact hmakes
  | @inside r s hr hq ih =>
    cases s with
    | leaf t => cases hr
    | node j ps =>
      cases r with
      | leaf t =>
        cases hq with
        | here => cases hk
        | inside hr' => cases hr'
      | node j' qs => exact ih (hmakes.part hr rfl).2

end Grammar

end ApiScribe
