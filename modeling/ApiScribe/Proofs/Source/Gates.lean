import ApiScribe.Proofs.Package.Answer
import ApiScribe.Proofs.Source.Depth
import ApiScribe.Proofs.Source.Words
import Mathlib.Data.List.Basic

/-!
# Items for tests

What becomes of a unit when an item behind `#[cfg(test)]` is taken out of the source:

* `Inside`, `Removed` — an item is taken out of a file, of an inline module or of an implementation;
* `share` — what an item adds to the unit of its file, whatever stands around it;
* `read_removed` — the unit stays the same exactly if the item on the top level around the one that
  is taken out is left out anyhow, or if the one that is taken out has neither comment lines nor a
  method.
-/

namespace ApiScribe

open Phrase

/-! ### Units put together -/

namespace SourceUnit

def append (u v : SourceUnit) : SourceUnit :=
  { u with
    types := u.types ++ v.types
    functions := u.functions ++ v.functions
    imports := u.imports ++ v.imports
    comments := u.comments ++ v.comments }

def empty : SourceUnit := { path := "" }

@[simp] theorem path_append (u v : SourceUnit) : (u.append v).path = u.path := rfl

@[simp] theorem append_empty (u : SourceUnit) : u.append empty = u := by simp [append, empty]

theorem empty_append {u : SourceUnit} (h : u.path = "") : empty.append u = u := by
  simp [append, empty, ← h]

theorem append_assoc (u v w : SourceUnit) : (u.append v).append w = u.append (v.append w) := by
  simp [append]

theorem append_left_inj {u v v' : SourceUnit} (h : v.path = v'.path) :
    u.append v = u.append v' ↔ v = v' := by
  constructor
  · intro heq
    simp only [append, mk.injEq, List.append_cancel_left_eq, true_and] at heq
    cases v
    cases v'
    simp_all
  · rintro rfl
    rfl

theorem append_right_inj {u v w : SourceUnit} : u.append w = v.append w ↔ u = v := by
  constructor
  · intro heq
    simp only [append, mk.injEq, List.append_cancel_right_eq] at heq
    cases u
    cases v
    simp_all
  · rintro rfl
    rfl

end SourceUnit

namespace RustUnit

open RustGrammar

/-! ### What items add -/

def share (d : ℕ) (item : RustPhrase) : SourceUnit := addItem d .empty item

def shares (d : ℕ) (items : List RustPhrase) : SourceUnit := items.foldl (addItem d) .empty

theorem declare_append (d : ℕ) (u v : SourceUnit) (attributes : List RustPhrase) (p : RustPhrase) :
    declare d (u.append v) attributes p = u.append (declare d v attributes p) := by
  unfold declare
  split <;> simp [SourceUnit.append]

theorem addItem_append (d : ℕ) (u v : SourceUnit) (item : RustPhrase) :
    addItem d (u.append v) item = u.append (addItem d v item) := by
  have hcomments : { u.append v with comments := (u.append v).comments ++ allDocLines item } =
      u.append { v with comments := v.comments ++ allDocLines item } := by
    simp [SourceUnit.append]
  unfold addItem
  split
  · rfl
  · dsimp only
    rw [hcomments]
    split
    · exact declare_append d u _ _ _
    · rfl

theorem foldl_addItem (d : ℕ) (u : SourceUnit) (items : List RustPhrase) :
    items.foldl (addItem d) u = u.append (shares d items) := by
  have hrun : ∀ v, items.foldl (addItem d) (u.append v) = u.append (items.foldl (addItem d) v) := by
    induction items with
    | nil => exact fun v => rfl
    | cons item items ih =>
      intro v
      rw [List.foldl_cons, addItem_append, ih]
      rfl
  have hempty := hrun .empty
  rwa [SourceUnit.append_empty] at hempty

@[simp] theorem path_shares (d : ℕ) (items : List RustPhrase) : (shares d items).path = "" := by
  have h := congrArg SourceUnit.path (foldl_addItem d .empty items)
  exact h

theorem shares_append (d : ℕ) (items items' : List RustPhrase) :
    shares d (items ++ items') = (shares d items).append (shares d items') := by
  rw [shares, List.foldl_append, foldl_addItem]
  rfl

theorem shares_congr {d d' : ℕ} {items : List RustPhrase}
    (h : ∀ item ∈ items, item.height ≤ d ∧ item.height ≤ d') : shares d items = shares d' items := by
  refine List.foldl_ext _ _ _ fun u item hitem => ?_
  obtain ⟨hd, hd'⟩ := h item hitem
  exact addItem_congr u hd hd'

/-! ### The parts of an item -/

/-- The names of what an item can be. -/
def subjects : List Name :=
  [.useItem, .structItem, .enumItem, .aliasItem, .traitItem, .functionItem, .moduleItem, .implItem,
    .otherItem, .unread]

/-- Whether a phrase stands in front of what an item is. -/
def IsFront (p : RustPhrase) : Prop := p.kind? = some .outerAttribute ∨ p.kind? = some .visibility

theorem front_of_call {depth : ℕ} {k : Name} (hk : k = .outerAttribute ∨ k = .visibility)
    {ts rest : List RustTree} {ps : List RustPhrase}
    (h : grammar.read depth k ts = some (ps, rest)) : ∀ q ∈ ps, IsFront q := by
  obtain ⟨qs, rfl, -⟩ := Grammar.exists_node_of_read h
  intro q hq
  rw [List.mem_singleton.mp hq]
  exact hk.imp (congrArg some) (congrArg some)

theorem front_of_outerAttributes {depth : ℕ} {ts rest : List RustTree} {ps : List RustPhrase}
    (h : Rule.run (grammar.read depth) RustGrammar.outerAttributes ts = some (ps, rest)) :
    ∀ q ∈ ps, IsFront q :=
  Rule.gives_repeatedly (fun h => front_of_call (Or.inl rfl) h) _ h

theorem front_of_visibility {depth : ℕ} {ts rest : List RustTree} {ps : List RustPhrase}
    (h : Rule.run (grammar.read depth) RustGrammar.visibility ts = some (ps, rest)) :
    ∀ q ∈ ps, IsFront q := by
  rcases Rule.run_either h with h | h
  · exact front_of_call (Or.inr rfl) h
  · cases h
    simp

/-- An item is what it is, behind attributes and its visibility. -/
theorem exists_subject {ps : List RustPhrase} (h : grammar.Makes (.node .item ps)) :
    ∃ front p k, ps = front ++ [p] ∧ (∀ q ∈ front, IsFront q) ∧ p.kind? = some k ∧ k ∈ subjects := by
  obtain ⟨depth, ts, rest, hrun⟩ := h.exists_run
  obtain ⟨attributes, ts', qs, hattributes, hitem, rfl⟩ := Rule.run_both hrun
  have hbare : ∀ {k ts qs}, k ∈ subjects → grammar.read depth k ts = some (qs, rest) →
      ∃ front p k, qs = front ++ [p] ∧ (∀ q ∈ front, IsFront q) ∧ p.kind? = some k ∧
        k ∈ subjects := by
    intro k ts qs hk hread
    obtain ⟨parts, rfl, -⟩ := Grammar.exists_node_of_read hread
    exact ⟨[], _, k, rfl, by simp, rfl, hk⟩
  have hvisible : ∀ {k}, k ∈ subjects →
      Rule.run (grammar.read depth) (RustGrammar.visibility ++ call k) ts' = some (qs, rest) →
      ∃ front p k, qs = front ++ [p] ∧ (∀ q ∈ front, IsFront q) ∧ p.kind? = some k ∧
        k ∈ subjects := by
    intro k hk hrun
    obtain ⟨before, ts'', rs, hbefore, hsubject, rfl⟩ := Rule.run_both hrun
    obtain ⟨parts, rfl, -⟩ := Grammar.exists_node_of_read hsubject
    exact ⟨before, _, k, rfl, front_of_visibility hbefore, rfl, hk⟩
  have hqs : ∃ front p k, qs = front ++ [p] ∧ (∀ q ∈ front, IsFront q) ∧ p.kind? = some k ∧
      k ∈ subjects := by
    obtain ⟨r, hr, hrun⟩ := Rule.run_oneOf hitem
    simp only [List.mem_cons, List.not_mem_nil, or_false] at hr
    -- A visibility stands in front of seven of the alternatives, and inside the other three.
    rcases hr with rfl | rfl | rfl | rfl | rfl | rfl | rfl | rfl | rfl | rfl
    all_goals first
      | exact hvisible (by decide) hrun
      | exact hbare (by decide) hrun
  obtain ⟨front, p, k, rfl, hfront, hkind, hk⟩ := hqs
  refine ⟨attributes ++ front, p, k, by simp, ?_, hkind, hk⟩
  intro q hq
  exact (List.mem_append.mp hq).elim (front_of_outerAttributes hattributes q) (hfront q)

theorem subject?_behind {front back : List RustPhrase} {p : RustPhrase}
    (hall : ∀ q ∈ front, IsFront q) {k : Name} (hk : p.kind? = some k) (hnot : ¬ IsFront p) :
    subject? (.node .item (front ++ p :: back)) = some p := by
  refine List.find?_eq_some_iff_append.mpr ⟨?_, front, back, rfl, ?_⟩
  · cases p with
    | leaf t => cases hk
    | node j qs =>
      have hother : j ≠ .outerAttribute ∧ j ≠ .visibility := by simpa [IsFront, kind?] using hnot
      simp [hother]
  · intro q hq
    rcases hall q hq with hq | hq
    all_goals
      cases q with
      | leaf t => cases hq
      | node j qs =>
        cases hq
        rfl

theorem eq_subject {front back : List RustPhrase} {p : RustPhrase}
    (h : grammar.Makes (.node .item (front ++ p :: back))) (hnot : ¬ IsFront p) :
    back = [] ∧ (∀ q ∈ front, IsFront q) ∧ ∃ k ∈ subjects, p.kind? = some k := by
  obtain ⟨front', q, k, hparts, hall, hkind, hk⟩ := exists_subject h
  rcases List.eq_nil_or_concat' back with rfl | ⟨back, last, rfl⟩
  · obtain ⟨rfl, hlast⟩ := List.append_inj' hparts rfl
    obtain rfl := List.singleton_inj.mp hlast
    exact ⟨rfl, hall, k, hk, hkind⟩
  · rw [← List.cons_append, ← List.append_assoc] at hparts
    obtain ⟨rfl, -⟩ := List.append_inj' hparts rfl
    exact absurd (hall p (by simp)) hnot

/-! ### Items inside others -/

/-- The names of what can be taken out, or have something taken out of it. -/
def movable : List Name := [.item, .moduleItem, .implItem, .implMember]

/-- A phrase with `x` inside, as an item of an inline module or as a member of an implementation, and
what is left of it without `x`. -/
inductive Inside (x : RustPhrase) : RustPhrase → RustPhrase → Prop
  | nested (front back : List RustPhrase) (hx : x.kind? = some .item) :
    Inside x (.node .moduleItem (front ++ x :: back)) (.node .moduleItem (front ++ back))
  | member (front back : List RustPhrase) (hx : x.kind? = some .implMember) :
    Inside x (.node .implItem (front ++ x :: back)) (.node .implItem (front ++ back))
  | deeper {k : Name} (front back : List RustPhrase) {p p' : RustPhrase}
      (hk : k = .item ∨ k = .moduleItem) (h : Inside x p p') :
    Inside x (.node k (front ++ p :: back)) (.node k (front ++ p' :: back))

namespace Inside

variable {x p p' : RustPhrase}

theorem kind (h : Inside x p p') :
    ∃ k ∈ [Name.item, .moduleItem, .implItem], p.kind? = some k ∧ p'.kind? = some k := by
  cases h with
  | nested front back hx => exact ⟨.moduleItem, by simp, rfl, rfl⟩
  | member front back hx => exact ⟨.implItem, by simp, rfl, rfl⟩
  | @deeper k front back p p' hk h =>
    refine ⟨k, ?_, rfl, rfl⟩
    rcases hk with rfl | rfl <;> simp

theorem not_front (h : Inside x p p') : ¬ IsFront p := by
  obtain ⟨k, hk, hp, -⟩ := h.kind
  rintro (hfront | hfront)
  all_goals
    cases hp.symm.trans hfront
    exact absurd hk (by decide)

theorem filter_parts (h : Inside x p p') {f : RustPhrase → Bool}
    (hf : ∀ q k, q.kind? = some k → k ∈ movable → f q = false) :
    p.parts.filter f = p'.parts.filter f := by
  cases h with
  | nested front back hx =>
    have hfx : f x = false := hf x .item hx (by decide)
    simp [parts, List.filter_append, hfx]
  | member front back hx =>
    have hfx : f x = false := hf x .implMember hx (by decide)
    simp [parts, List.filter_append, hfx]
  | @deeper k front back p p' hk h =>
    obtain ⟨j, hj, hp, hp'⟩ := h.kind
    have hmovable : j ∈ movable := by
      simp only [List.mem_cons, List.not_mem_nil, or_false] at hj
      rcases hj with rfl | rfl | rfl <;> decide
    have hfp := hf p j hp hmovable
    have hfp' := hf p' j hp' hmovable
    simp [parts, List.filter_append, hfp, hfp']

theorem find?_parts (h : Inside x p p') {f : RustPhrase → Bool}
    (hf : ∀ q k, q.kind? = some k → k ∈ movable → f q = false) :
    p.parts.find? f = p'.parts.find? f := by
  rw [← List.head?_filter, ← List.head?_filter, h.filter_parts hf]

theorem isA_of_movable {j k : Name} (hj : j ∉ movable) {q : RustPhrase} (hk : q.kind? = some k)
    (hmovable : k ∈ movable) : q.isA j = false := by
  have hne : k ≠ j := fun heq => hj (heq ▸ hmovable)
  simp [isA, hk, hne]

theorem all_eq (h : Inside x p p') {j : Name} (hj : j ∉ movable) : p.all j = p'.all j :=
  h.filter_parts fun _ _ hk hmovable => isA_of_movable hj hk hmovable

theorem innerAttributes_eq (h : Inside x p p') : innerAttributes p = innerAttributes p' := by
  have hbodies := h.filter_parts (f := fun q => q.isA .body || q.isA .innerBlock) ?_
  · unfold innerAttributes
    rw [h.all_eq (by decide), hbodies]
  · intro q k hk hmovable
    rw [isA_of_movable (j := .body) (by decide) hk hmovable,
      isA_of_movable (j := .innerBlock) (by decide) hk hmovable]
    rfl

theorem firstType?_eq (h : Inside x p p') : RustType.firstType? p = RustType.firstType? p' := by
  refine h.find?_parts fun q k hk hmovable => ?_
  unfold RustType.isType
  rw [isA_of_movable (by decide) hk hmovable, isA_of_movable (by decide) hk hmovable]
  rfl

end Inside

/-! ### Comment lines -/

theorem allDocLinesOf_append (ps qs : List RustPhrase) :
    allDocLinesOf (ps ++ qs) = allDocLinesOf ps ++ allDocLinesOf qs := by
  induction ps with
  | nil => simp [allDocLinesOf]
  | cons p ps ih => simp [allDocLinesOf, ih]

theorem allDocLines_holder {k : Name} (hk : k = .item ∨ k = .moduleItem ∨ k = .implItem)
    {ps : List RustPhrase} (hread : ps.find? (isA .unread) = none) :
    allDocLines (.node k ps) = docLines (innerAttributes (.node k ps)) ++ allDocLinesOf ps := by
  have hany : ps.any (isA .unread) = false := by
    rw [List.any_eq_false]
    exact List.find?_eq_none.mp hread
  rw [allDocLines, hany]
  rcases hk with rfl | rfl | rfl <;> rfl

/-- What is left unread is not among the parts of a phrase with something inside. -/
theorem Inside.find?_unread {x p p' : RustPhrase} (h : Inside x p p') (hmakes : grammar.Makes p) :
    p.parts.find? (isA .unread) = none := by
  rw [List.find?_eq_none]
  intro q hq hunread
  have hkind : q.kind? = some .unread := beq_iff_eq.mp hunread
  -- The rules of modules and implementations call nothing that is left unread; an item can be left
  -- unread itself, but then it is no module and no implementation.
  cases h with
  | nested front back hx => exact absurd (hmakes.part hq hkind).1 (by decide)
  | member front back hx => exact absurd (hmakes.part hq hkind).1 (by decide)
  | @deeper k front back c c' hk h =>
    rcases hk with rfl | rfl
    · obtain ⟨j, hj, hc, -⟩ := h.kind
      obtain ⟨rfl, hall, -⟩ := eq_subject hmakes h.not_front
      rcases List.mem_append.mp hq with hq | hq
      · rcases hall q hq with hfront | hfront
        · cases hkind.symm.trans hfront
        · cases hkind.symm.trans hfront
      · rw [List.mem_singleton.mp hq] at hkind
        cases hc.symm.trans hkind
        exact absurd hj (by decide)
    · exact absurd (hmakes.part hq hkind).1 (by decide)

/-- What is read on the parts around a change stays the same. -/
theorem Inside.lines_around {x : RustPhrase} {k : Name} {front back qs qs' : List RustPhrase}
    (h : Inside x (.node k (front ++ qs ++ back)) (.node k (front ++ qs' ++ back)))
    (hmakes : grammar.Makes (.node k (front ++ qs ++ back))) :
    ∃ before after,
      allDocLines (.node k (front ++ qs ++ back)) = before ++ allDocLinesOf qs ++ after ∧
      allDocLines (.node k (front ++ qs' ++ back)) = before ++ allDocLinesOf qs' ++ after := by
  have hread : (front ++ qs ++ back).find? (isA .unread) = none := h.find?_unread hmakes
  have hsame := h.find?_parts (f := isA .unread) fun q k hk hmovable =>
    isA_of_movable (by decide) hk hmovable
  have hread' : (front ++ qs' ++ back).find? (isA .unread) = none := hsame.symm.trans hread
  obtain ⟨j, hj, hkind, -⟩ := h.kind
  cases hkind
  have hholder : k = .item ∨ k = .moduleItem ∨ k = .implItem := by simpa using hj
  refine ⟨docLines (innerAttributes (.node k (front ++ qs ++ back))) ++ allDocLinesOf front,
    allDocLinesOf back, ?_, ?_⟩
  · rw [allDocLines_holder hholder hread, allDocLinesOf_append, allDocLinesOf_append]
    simp only [List.append_assoc]
  · rw [allDocLines_holder hholder hread', ← h.innerAttributes_eq, allDocLinesOf_append,
      allDocLinesOf_append]
    simp only [List.append_assoc]

/-- **Without an item that is inside, its comment lines are gone, and no others.** -/
theorem Inside.allDocLines_eq {x p p' : RustPhrase} (h : Inside x p p') (hmakes : grammar.Makes p) :
    ∃ before after, allDocLines p = before ++ allDocLines x ++ after ∧
      allDocLines p' = before ++ after := by
  induction h with
  | nested front back hx =>
    have h : Inside x (.node .moduleItem (front ++ [x] ++ back))
        (.node .moduleItem (front ++ [] ++ back)) := by simpa using Inside.nested front back hx
    simpa [allDocLinesOf] using h.lines_around (by simpa using hmakes)
  | member front back hx =>
    have h : Inside x (.node .implItem (front ++ [x] ++ back))
        (.node .implItem (front ++ [] ++ back)) := by simpa using Inside.member front back hx
    simpa [allDocLinesOf] using h.lines_around (by simpa using hmakes)
  | @deeper k front back c c' hk hc ih =>
    have h : Inside x (.node k (front ++ [c] ++ back)) (.node k (front ++ [c'] ++ back)) := by
      simpa using Inside.deeper front back hk hc
    obtain ⟨before, after, hlines, hlines'⟩ := h.lines_around (by simpa using hmakes)
    obtain ⟨j, hj, hkind, -⟩ := hc.kind
    obtain ⟨before', after', hchild, hchild'⟩ := ih (hmakes.part (q := c) (by simp) hkind).2
    refine ⟨before ++ before', after' ++ after, ?_, ?_⟩
    · simpa [allDocLinesOf, hchild] using hlines
    · simpa [allDocLinesOf, hchild'] using hlines'

/-! ### Shares with and without an item -/

/-- Whether a phrase has the attribute `#[cfg(test)]`. -/
def IsGated (x : RustPhrase) : Prop := ∃ a ∈ outerAttributes x, isTestGate a = true

/-- Whether an item is a method of an implementation. -/
def IsMethod (x item : RustPhrase) : Prop :=
  ∃ p, subject? item = some p ∧ p.isA .implItem = true ∧ (x.first? .functionItem).isSome = true

theorem isTestOnly_eq {item p : RustPhrase} (h : subject? item = some p) :
    isTestOnly item = (mayBeGated p && (outerAttributes item ++ innerAttributes p).any isTestGate) := by
  simp [isTestOnly, h]

/-- Of the items behind a gate, those are left out whose attributes are looked at. -/
theorem isTestOnly_of_isGated {x p : RustPhrase} (hgated : IsGated x) (hp : subject? x = some p) :
    isTestOnly x = mayBeGated p := by
  obtain ⟨a, ha, hgate⟩ := hgated
  have hany : (outerAttributes x ++ innerAttributes p).any isTestGate = true :=
    List.any_eq_true.mpr ⟨a, List.mem_append_left _ ha, hgate⟩
  rw [isTestOnly_eq hp, hany, Bool.and_true]

theorem share_of_isTestOnly (d : ℕ) {item : RustPhrase} (h : isTestOnly item = true) :
    share d item = .empty := by
  simp [share, addItem, h]

theorem share_of_subject (d : ℕ) {item p : RustPhrase} (h : isTestOnly item = false)
    (hp : subject? item = some p) :
    share d item = declare d { SourceUnit.empty with comments := allDocLines item }
      (outerAttributes item) p := by
  simp [share, addItem, h, hp, SourceUnit.empty]

/-- Items of some kinds declare nothing. -/
theorem declare_of_kind (d : ℕ) (u : SourceUnit) (attributes : List RustPhrase) {p : RustPhrase}
    {k : Name} (hp : p.kind? = some k) (hk : k = .moduleItem ∨ k = .otherItem ∨ k = .unread) :
    declare d u attributes p = u := by
  cases p with
  | leaf t => cases hp
  | node j ps =>
    cases hp
    rcases hk with rfl | rfl | rfl <;> rfl

theorem declare_implItem (d : ℕ) (u : SourceUnit) (attributes : List RustPhrase) {p : RustPhrase}
    (hp : p.kind? = some .implItem) :
    declare d u attributes p = { u with functions := u.functions ++ methodsOf d p } := by
  cases p with
  | leaf t => cases hp
  | node j ps =>
    cases hp
    rfl

/-- **An item on the top level behind a gate adds its comment lines, unless it is left out.** -/
theorem share_eq_empty_iff {x : RustPhrase} (d : ℕ) (hgated : IsGated x) {p : RustPhrase}
    (hp : subject? x = some p) :
    share d x = .empty ↔ isTestOnly x = true ∨ allDocLines x = [] ∧ ¬ IsMethod x x := by
  by_cases htest : isTestOnly x = true
  · simp [share_of_isTestOnly d htest, htest]
  · have htest : isTestOnly x = false := by simpa using htest
    -- The attributes of such an item are not looked at, and it declares nothing.
    have hkind : p.kind? = some .otherItem ∨ p.kind? = some .unread := by
      rw [isTestOnly_of_isGated hgated hp] at htest
      simp only [mayBeGated, isA, Bool.not_eq_false', Bool.or_eq_true, beq_iff_eq] at htest
      exact htest
    have hmethod : ¬ IsMethod x x := by
      rintro ⟨q, hq, hitem, -⟩
      obtain rfl := Option.some.inj (hp.symm.trans hq)
      have hitem : p.kind? = some .implItem := beq_iff_eq.mp hitem
      rcases hkind with hkind | hkind
      · cases hkind.symm.trans hitem
      · cases hkind.symm.trans hitem
    have hshare : share d x = { SourceUnit.empty with comments := allDocLines x } := by
      rw [share_of_subject d htest hp]
      rcases hkind with hkind | hkind
      · exact declare_of_kind d _ _ hkind (by simp)
      · exact declare_of_kind d _ _ hkind (by simp)
    simp [hshare, htest, hmethod, SourceUnit.empty]

/-- An item with something inside, and what it is, with and without that. -/
theorem Inside.subjects {x top top' : RustPhrase} (h : Inside x top top')
    (htop : top.kind? = some .item) (hmakes : grammar.Makes top) :
    ∃ p p', Inside x p p' ∧ p ∈ top.parts ∧ p' ∈ top'.parts ∧
      subject? top = some p ∧ subject? top' = some p' ∧
      (p.kind? = some .moduleItem ∧ p'.kind? = some .moduleItem ∨
        p.kind? = some .implItem ∧ p'.kind? = some .implItem) := by
  cases h with
  | nested front back hx => cases htop
  | member front back hx => cases htop
  | @deeper k front back p p' hk h =>
    cases htop
    obtain ⟨rfl, hall, j, hj, hkind⟩ := eq_subject hmakes h.not_front
    obtain ⟨j', hj', hp, hp'⟩ := h.kind
    cases hkind.symm.trans hp
    have hnot' : ¬ IsFront p' := by
      have hnot := h.not_front
      unfold IsFront at hnot ⊢
      rwa [hp'.trans hp.symm]
    refine ⟨p, p', h, by simp [parts], by simp [parts], subject?_behind hall hp h.not_front,
      subject?_behind hall hp' hnot', ?_⟩
    simp only [List.mem_cons, List.not_mem_nil, or_false] at hj'
    rcases hj' with rfl | rfl | rfl
    · exact absurd hj (by decide)
    · exact Or.inl ⟨hp, hp'⟩
    · exact Or.inr ⟨hp, hp'⟩

theorem Inside.isTestOnly_eq {x top top' : RustPhrase} (h : Inside x top top')
    (htop : top.kind? = some .item) (hmakes : grammar.Makes top) :
    isTestOnly top = isTestOnly top' := by
  obtain ⟨p, p', hinside, -, -, hp, hp', hkind⟩ := h.subjects htop hmakes
  have hgated : mayBeGated p = mayBeGated p' := by
    unfold mayBeGated isA
    rcases hkind with ⟨hk, hk'⟩ | ⟨hk, hk'⟩
    · rw [hk, hk']
    · rw [hk, hk']
  have houter : outerAttributes top = outerAttributes top' := h.all_eq (by decide)
  rw [RustUnit.isTestOnly_eq hp, RustUnit.isTestOnly_eq hp', hgated, houter,
    hinside.innerAttributes_eq]

theorem Inside.receiver_eq {x p p' : RustPhrase} (h : Inside x p p') {d d' : ℕ}
    (hd : p.height ≤ d) (hd' : p'.height ≤ d') :
    (RustType.firstType? p).bind (RustType.selfName? d) =
      (RustType.firstType? p').bind (RustType.selfName? d') := by
  have hsame := h.firstType?_eq
  rw [hsame]
  refine Option.bind_congr fun q hq => ?_
  have hq' : RustType.firstType? p = some q := hsame.trans hq
  have hlt := height_lt_of_mem_parts (List.mem_of_find?_eq_some hq)
  have hlt' := height_lt_of_mem_parts (List.mem_of_find?_eq_some hq')
  exact RustType.settles_selfName? (RustType.height_pos_of_isType (List.find?_some hq))
    (by omega) (by omega)

theorem Inside.methodsOf_eq {x p p' : RustPhrase} (h : Inside x p p')
    (hkind : p.kind? = some .implItem) {d d' : ℕ} (hd : p.height ≤ d) (hd' : p'.height ≤ d') :
    ∃ before own after, methodsOf d p = before ++ own ++ after ∧
      methodsOf d' p' = before ++ after ∧ (own = [] ↔ (x.first? .functionItem).isSome = false) := by
  have hreceiver := h.receiver_eq hd hd'
  -- The receiver is the only part of the methods that is read with a depth.
  unfold methodsOf
  rw [← hreceiver]
  generalize (RustType.firstType? p).bind (RustType.selfName? d) = receiver
  cases h with
  | nested front back hx => cases hkind
  | deeper front back hk h =>
    rcases hk with rfl | rfl
    · cases hkind
    · cases hkind
  | member front back hx =>
    have hisA : x.isA .implMember = true := beq_iff_eq.mpr hx
    have hall : all .implMember (.node .implItem (front ++ x :: back)) =
        front.filter (isA .implMember) ++ [x] ++ back.filter (isA .implMember) := by
      simp [all, parts, hisA]
    have hall' : all .implMember (.node .implItem (front ++ back)) =
        front.filter (isA .implMember) ++ back.filter (isA .implMember) := by
      simp [all, parts]
    rw [hall, hall', List.filterMap_append, List.filterMap_append, List.filterMap_append]
    refine ⟨_, _, _, rfl, rfl, ?_⟩
    cases hfunction : x.first? .functionItem with
    | none => simp [hfunction]
    | some q => simp [hfunction]

/-- **An item adds the same without what is inside**, if it adds nothing anyhow, or if what is inside
has neither comment lines nor a method. -/
theorem Inside.share_eq_iff {x top top' : RustPhrase} (h : Inside x top top')
    (htop : top.kind? = some .item) (hmakes : grammar.Makes top) {d d' : ℕ} (hd : top.height ≤ d)
    (hd' : top'.height ≤ d') :
    share d top = share d' top' ↔
      isTestOnly top = true ∨ allDocLines x = [] ∧ ¬ IsMethod x top := by
  have hsame := h.isTestOnly_eq htop hmakes
  by_cases htest : isTestOnly top = true
  · rw [share_of_isTestOnly d htest, share_of_isTestOnly d' (hsame ▸ htest)]
    simp [htest]
  · have htest : isTestOnly top = false := by simpa using htest
    obtain ⟨before, after, hlines, hlines'⟩ := h.allDocLines_eq hmakes
    obtain ⟨p, p', hinside, hpart, hpart', hp, hp', hkind⟩ := h.subjects htop hmakes
    have hlt := height_lt_of_mem_parts hpart
    have hlt' := height_lt_of_mem_parts hpart'
    rw [share_of_subject d htest hp, share_of_subject d' (hsame ▸ htest) hp', hlines, hlines']
    rcases hkind with ⟨hk, hk'⟩ | ⟨hk, hk'⟩
    · have hmethod : ¬ IsMethod x top := by
        rintro ⟨q, hq, hitem, -⟩
        obtain rfl := Option.some.inj (hp.symm.trans hq)
        have hitem : p.kind? = some .implItem := beq_iff_eq.mp hitem
        cases hk.symm.trans hitem
      rw [declare_of_kind d _ _ hk (Or.inl rfl), declare_of_kind d' _ _ hk' (Or.inl rfl)]
      simp [SourceUnit.empty, htest, hmethod]
    · have hmethod : IsMethod x top ↔ (x.first? .functionItem).isSome = true := by
        have hitem : p.isA .implItem = true := beq_iff_eq.mpr hk
        simp [IsMethod, hp, hitem]
      obtain ⟨front, own, back, hmethods, hmethods', hown⟩ :=
        hinside.methodsOf_eq hk (by omega : p.height ≤ d) (by omega : p'.height ≤ d')
      rw [declare_implItem d _ _ hk, declare_implItem d' _ _ hk', hmethods, hmethods', hmethod]
      simp [SourceUnit.empty, htest, hown, and_comm]

/-! ### Files -/

theorem read_of_file? {source : String} {file : RustPhrase} (h : file? source = some file)
    (path : String) : read path source = .ok (ofFile (depthOf source) path file) ∧
      grammar.Makes file ∧ file.height ≤ depthOf source := by
  have hread := (read_eq_ok_iff path).mpr ⟨file, h, rfl⟩
  obtain ⟨tokens, htokens, h⟩ := Option.bind_eq_some_iff.mp h
  obtain ⟨trees, htrees, h⟩ := Option.bind_eq_some_iff.mp h
  obtain ⟨⟨found, rest⟩, hfound, h⟩ := Option.bind_eq_some_iff.mp h
  obtain ⟨parts, rfl, hmakes⟩ := Grammar.exists_node_of_read hfound
  cases h
  exact ⟨hread, hmakes, Grammar.height_read _ _ _ hfound _ (by simp)⟩

/-- A file with `x` in it, the item on the top level around `x` or `x` itself, and the file without
`x`. -/
inductive Removed (x : RustPhrase) : RustPhrase → RustPhrase → RustPhrase → Prop
  | top (front back : List RustPhrase) (hx : x.kind? = some .item) :
    Removed x x (.node .file (front ++ x :: back)) (.node .file (front ++ back))
  | inside (front back : List RustPhrase) {item item' : RustPhrase}
      (hitem : item.kind? = some .item) (h : Inside x item item') :
    Removed x item (.node .file (front ++ item :: back)) (.node .file (front ++ item' :: back))

theorem ofFile_eq (d : ℕ) (path : String) (file : RustPhrase) :
    ofFile d path file =
      ({ path, comments := docLines (file.all .innerAttribute) } : SourceUnit).append
        (shares d (file.all .item)) := foldl_addItem d _ _

theorem all_item_file {front qs back : List RustPhrase} (hqs : ∀ q ∈ qs, q.kind? = some .item) :
    all .item (.node .file (front ++ qs ++ back)) =
      front.filter (isA .item) ++ qs ++ back.filter (isA .item) := by
  have hkept : qs.filter (isA .item) = qs :=
    List.filter_eq_self.mpr fun q hq => beq_iff_eq.mpr (hqs q hq)
  simp [all, parts, hkept]

theorem all_innerAttribute_file {front qs back : List RustPhrase}
    (hqs : ∀ q ∈ qs, q.kind? = some .item) :
    all .innerAttribute (.node .file (front ++ qs ++ back)) =
      front.filter (isA .innerAttribute) ++ back.filter (isA .innerAttribute) := by
  have hgone : qs.filter (isA .innerAttribute) = [] := by
    refine List.filter_eq_nil_iff.mpr fun q hq => ?_
    simp [isA, hqs q hq]
  simp [all, parts, hgone]

/-- The units of two files that differ in one place differ in what stands there adds. -/
theorem ofFile_eq_iff (front back qs qs' : List RustPhrase) {d d' : ℕ} (path : String)
    (hqs : ∀ q ∈ qs, q.kind? = some .item) (hqs' : ∀ q ∈ qs', q.kind? = some .item)
    (hd : (Phrase.node Name.file (front ++ qs ++ back)).height ≤ d)
    (hd' : (Phrase.node Name.file (front ++ qs' ++ back)).height ≤ d') :
    ofFile d path (.node .file (front ++ qs ++ back)) =
        ofFile d' path (.node .file (front ++ qs' ++ back)) ↔ shares d qs = shares d' qs' := by
  have hheight : ∀ item ∈ front ++ back, item.height ≤ d ∧ item.height ≤ d' := by
    intro item hitem
    have hmem : item ∈ (Phrase.node Name.file (front ++ qs ++ back)).parts := by
      simp only [parts, List.mem_append] at hitem ⊢
      tauto
    have hmem' : item ∈ (Phrase.node Name.file (front ++ qs' ++ back)).parts := by
      simp only [parts, List.mem_append] at hitem ⊢
      tauto
    have hlt := height_lt_of_mem_parts hmem
    have hlt' := height_lt_of_mem_parts hmem'
    exact ⟨by omega, by omega⟩
  have hfront : shares d (front.filter (isA .item)) = shares d' (front.filter (isA .item)) :=
    shares_congr fun item hitem => hheight item (List.mem_append_left _ (List.mem_filter.mp hitem).1)
  have hback : shares d (back.filter (isA .item)) = shares d' (back.filter (isA .item)) :=
    shares_congr fun item hitem => hheight item (List.mem_append_right _ (List.mem_filter.mp hitem).1)
  rw [ofFile_eq, ofFile_eq, all_item_file hqs, all_item_file hqs', all_innerAttribute_file hqs,
    all_innerAttribute_file hqs']
  -- What stands before and behind adds the same to both, and cancels.
  simp only [shares_append, hfront, hback]
  rw [SourceUnit.append_left_inj (by simp), SourceUnit.append_right_inj,
    SourceUnit.append_left_inj (by simp)]

/-- **When an item behind `#[cfg(test)]` can be taken out.**  The unit of a source and that of the
source without the item are the same exactly if the item on the top level around it is left out, or
if it has neither comment lines nor is it a method of an implementation on the top level. -/
theorem read_removed {source source' : String} {file file' x item : RustPhrase}
    (hfile : file? source = some file) (hfile' : file? source' = some file')
    (hremoved : Removed x item file file') (hgated : IsGated x) (path : String) :
    read path source' = read path source ↔
      isTestOnly item = true ∨ allDocLines x = [] ∧ ¬ IsMethod x item := by
  obtain ⟨hread, hmakes, hheight⟩ := read_of_file? hfile path
  obtain ⟨hread', -, hheight'⟩ := read_of_file? hfile' path
  rw [hread, hread', Except.ok.injEq, eq_comm]
  cases hremoved with
  | top front back hx =>
    have hmade := (hmakes.part (q := x) (by simp) hx).2
    have hunits := ofFile_eq_iff front back [x] [] path (by simpa using hx) (by simp)
      (by simpa using hheight) (by simpa using hheight')
    simp only [List.append_assoc, List.singleton_append, List.nil_append] at hunits
    rw [hunits]
    cases x with
    | leaf t => cases hx
    | node k ps =>
      cases hx
      obtain ⟨front', p, j, rfl, hall, hkind, hj⟩ := exists_subject hmade
      have hnot : ¬ IsFront p := by
        rintro (h | h)
        all_goals
          cases hkind.symm.trans h
          exact absurd hj (by decide)
      exact share_eq_empty_iff _ hgated (subject?_behind hall hkind hnot)
  | @inside front back item item' hitem h =>
    have hmade := (hmakes.part (q := item) (by simp) hitem).2
    obtain ⟨j, -, hkind, hkind'⟩ := h.kind
    have hitem' : item'.kind? = some .item := (hkind'.trans hkind.symm).trans hitem
    have hunits := ofFile_eq_iff front back [item] [item'] path (by simpa using hitem)
      (by simpa using hitem') (by simpa using hheight) (by simpa using hheight')
    simp only [List.append_assoc, List.singleton_append] at hunits
    rw [hunits]
    have hlt := height_lt_of_mem_parts (q := item) (p := .node .file (front ++ item :: back))
      (by simp [parts])
    have hlt' := height_lt_of_mem_parts (q := item') (p := .node .file (front ++ item' :: back))
      (by simp [parts])
    exact h.share_eq_iff hitem hmade (by omega) (by omega)

/-! ### A function behind a gate -/

/-- A word as it stands. -/
def wordPhrase (text : String) : RustPhrase := .leaf (.leaf (.name text))

/-- A function for tests, as an item or as a member. -/
def testFunction (k : Name) : RustPhrase :=
  .node k [
    .node .outerAttribute [
      .leaf (.leaf (.sign '#' false)), wordPhrase "cfg",
      .leaf (.group .paren (.sign '(' false) (.sign ')' false) [.leaf (.name "test")])],
    .node .functionItem [
      .node .signature [wordPhrase "fn", wordPhrase "fill"],
      .node .body []]]

theorem isGated_testFunction (k : Name) : IsGated (testFunction k) :=
  ⟨_, List.mem_cons_self, by decide⟩

/-- A function for tests in a module does not show. -/
theorem read_removed_module :
    read "" "mod cart \x7b \x7d" = read "" "mod cart \x7b #[cfg(test)] fn fill() \x7b\x7d \x7d" := by
  have hinside : Inside (testFunction .item) _ _ :=
    .nested [wordPhrase "mod", wordPhrase "cart"] [] rfl
  have hremoved := Removed.inside [] [] rfl (.deeper [] [] (Or.inl rfl) hinside)
  refine (read_removed (by decide +kernel) (by decide +kernel) hremoved
    (isGated_testFunction .item) "").mpr (Or.inr ⟨by decide, ?_⟩)
  rintro ⟨p, hp, hitem, -⟩
  cases hp
  exact absurd hitem (by decide)

/-- A method is a function of the unit, behind a gate or not. -/
theorem read_removed_differs :
    ¬ ∀ (source source' : String) (file file' x item : RustPhrase), file? source = some file →
        file? source' = some file' → Removed x item file file' → IsGated x →
        ∀ path, read path source' = read path source := by
  intro hall
  let type : RustPhrase :=
    .node (.type true) [.node .pathType [.node .segment [wordPhrase "Cart"]]]
  have hinside : Inside (testFunction .implMember) _ _ := .member [wordPhrase "impl", type] [] rfl
  have hremoved := Removed.inside [] [] rfl (.deeper [] [] (Or.inl rfl) hinside)
  have hsame := hall "impl Cart \x7b #[cfg(test)] fn fill() \x7b\x7d \x7d" "impl Cart \x7b \x7d" _ _ _ _
    (by decide +kernel) (by decide +kernel) hremoved (isGated_testFunction .implMember) "input"
  exact absurd (congrArg Except.toOption hsame) (by decide +kernel)

end RustUnit

end ApiScribe
