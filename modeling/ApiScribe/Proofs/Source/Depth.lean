import ApiScribe.Proofs.Source.Phrases
import ApiScribe.Source.RustUnit

/-!
# How deep phrases are read

Types, imports and declarations are read from phrases with a bound on how deep these are.  A phrase is
never higher than the bound that it has been matched with (`Grammar.height_read`), and any bound that
is not below its height gives the same (`Phrase.Settles`).
-/

namespace ApiScribe

namespace Phrase

/-- A reading with a bound that does not depend on the bound, as long as no phrase with a name is
higher. -/
def Settles {κ α β : Type} (f : ℕ → Phrase κ α → β) : Prop :=
  ∀ {p : Phrase κ α} {d d' : ℕ}, 0 < p.height → p.height ≤ d → p.height ≤ d' → f d p = f d' p

/-- A reading settles if it takes from what is below a phrase only what it reads there. -/
theorem settles_of_step {κ α β : Type} {f : ℕ → Phrase κ α → β}
    (hstep : ∀ p d d', (∀ q, 0 < q.height → q.height < p.height → f d q = f d' q) →
      f (d + 1) p = f (d' + 1) p) : Settles f := by
  intro p d d' hpos hd hd'
  induction d generalizing p d' with
  | zero => omega
  | succ d ih =>
    cases d' with
    | zero => omega
    | succ d' =>
      refine hstep p d d' fun q hq hlt => ?_
      exact ih hq (by omega) (by omega)

end Phrase

open Phrase

namespace RustType

open RustGrammar

theorem mem_parts_of_first? {p q : RustPhrase} {k : Name} (h : p.first? k = some q) : q ∈ p.parts :=
  List.mem_of_find?_eq_some h

theorem height_pos_of_isType {p : RustPhrase} (h : isType p = true) : 0 < p.height := by
  rcases Bool.or_eq_true_iff.mp h with h | h
  · exact height_pos_of_isA h
  · exact height_pos_of_isA h

/-- Readings that agree on what is below a phrase agree on the type that stands in it. -/
theorem eq_of_firstType? {β : Type} {f f' : RustPhrase → β} {p q : RustPhrase}
    (h : ∀ q, 0 < q.height → q.height < p.height → f q = f' q) (hq : firstType? p = some q) :
    f q = f' q := by
  have hpart : q ∈ p.parts := List.mem_of_find?_eq_some hq
  exact h q (height_pos_of_isType (List.find?_some hq)) (height_lt_of_mem_parts hpart)

theorem map_firstType?_congr {β : Type} {f f' : RustPhrase → β} {p : RustPhrase}
    (h : ∀ q, 0 < q.height → q.height < p.height → f q = f' q) :
    (firstType? p).map f = (firstType? p).map f' :=
  Option.map_congr fun _ hq => eq_of_firstType? h hq

theorem bind_firstType?_congr {β : Type} {f f' : RustPhrase → Option β} {p : RustPhrase}
    (h : ∀ q, 0 < q.height → q.height < p.height → f q = f' q) :
    (firstType? p).bind f = (firstType? p).bind f' :=
  Option.bind_congr fun _ hq => eq_of_firstType? h hq

theorem mem_parts_of_soleType? {group p : RustPhrase} (h : soleType? group = some p) :
    p ∈ group.parts ∧ 0 < p.height := by
  unfold soleType? at h
  split at h
  · rename_i q hparts
    obtain ⟨htype, heq⟩ := Option.ite_none_right_eq_some.mp h
    cases heq
    exact ⟨hparts ▸ List.mem_singleton_self _, height_pos_of_isType htype⟩
  · cases h

theorem mem_parts_of_path? {p path : RustPhrase} (h : path? p = some path) : path ∈ p.parts := by
  unfold path? at h
  split at h
  · cases h
  · exact mem_parts_of_first? h

theorem height_of_mem_argumentTypes {segment p : RustPhrase} (h : p ∈ argumentTypes segment) :
    0 < p.height ∧ p.height < segment.height := by
  obtain ⟨argument, hargument, htype⟩ := List.mem_filterMap.mp h
  unfold argumentType? at htype
  split at htype
  · rename_i joined ps hparts
    cases htype
    have hlt := height_lt_of_mem_parts (hparts ▸ List.mem_singleton_self _ : _ ∈ argument.parts)
    have hlt' := height_lt_of_mem_parts (List.mem_filter.mp hargument).1
    exact ⟨by simp, by omega⟩
  · cases htype

theorem last_mem_parts {path s : RustPhrase} {ss : List RustPhrase}
    (h : path.all .segment = s :: ss) : (s :: ss).getLast?.getD s ∈ path.parts := by
  have hmem : (s :: ss).getLast?.getD s ∈ path.all .segment := by
    rw [h, List.getLast?_eq_some_getLast (List.cons_ne_nil s ss), Option.getD_some]
    exact List.getLast_mem _
  exact (List.mem_filter.mp hmem).1

theorem settles_ofPhrase : Settles ofPhrase := by
  refine settles_of_step fun p d d' h => ?_
  have hbelow : ∀ a ∈ p.parts, ∀ q, 0 < q.height → q.height < a.height →
      ofPhrase d q = ofPhrase d' q := by
    intro a ha q hq hlt
    have hlt' := height_lt_of_mem_parts ha
    exact h q hq (by omega)
  rw [ofPhrase, ofPhrase]
  refine if_congr Iff.rfl rfl (if_congr Iff.rfl rfl ?_)
  cases hgroup : p.first? .groupType with
  | some group =>
    dsimp only
    refine if_congr Iff.rfl rfl ?_
    cases hsole : soleType? group with
    | none => rfl
    | some q =>
      obtain ⟨hq, hpos⟩ := mem_parts_of_soleType? hsole
      exact hbelow group (mem_parts_of_first? hgroup) q hpos (height_lt_of_mem_parts hq)
  | none =>
    dsimp only
    cases harray : p.first? .arrayType with
    | some array =>
      dsimp only
      rw [map_firstType?_congr (hbelow array (mem_parts_of_first? harray))]
    | none =>
      dsimp only
      cases hreference : p.first? .referenceType with
      | some reference =>
        dsimp only
        rw [map_firstType?_congr (hbelow reference (mem_parts_of_first? hreference))]
      | none =>
        dsimp only
        cases hpath : path? p with
        | none => rfl
        | some path =>
          rw [Option.map_some]
          cases hsegments : path.all .segment with
          | nil => rfl
          | cons s ss =>
            dsimp only
            have hlast := last_mem_parts hsegments
            have hargument : ∀ (i : ℕ) (q : RustPhrase),
                (argumentTypes ((s :: ss).getLast?.getD s))[i]? = some q →
                ofPhrase d q = ofPhrase d' q := by
              intro i q hq
              have hmem : q ∈ argumentTypes ((s :: ss).getLast?.getD s) := List.mem_of_getElem? hq
              obtain ⟨hpos, hlt⟩ := height_of_mem_argumentTypes hmem
              have hlt' := height_lt_of_mem_parts hlast
              exact hbelow path (mem_parts_of_path? hpath) q hpos (by omega)
            refine if_congr Iff.rfl ?_ (if_congr Iff.rfl ?_ (if_congr Iff.rfl ?_ rfl))
            all_goals
              split
              · rename_i q hq
                rw [hargument _ q hq]
              · rfl

theorem settles_selfName? : Settles selfName? := by
  refine settles_of_step fun p d d' h => ?_
  rw [selfName?, selfName?]
  cases hreference : p.first? .referenceType with
  | none => rfl
  | some reference =>
    dsimp only
    have hlt := height_lt_of_mem_parts (mem_parts_of_first? hreference)
    exact bind_firstType?_congr fun q hq hlt' => h q hq (by omega)

end RustType

namespace RustUnit

open RustGrammar

theorem settles_useTreeOf : Settles useTreeOf := by
  refine settles_of_step fun p d d' h => ?_
  have hpart : ∀ q ∈ p.all .useTree, useTreeOf d q = useTreeOf d' q := by
    intro q hq
    obtain ⟨hmem, hname⟩ := List.mem_filter.mp hq
    exact h q (height_pos_of_isA hname) (height_lt_of_mem_parts hmem)
  have htrees : (p.all .useTree).map (useTreeOf d) = (p.all .useTree).map (useTreeOf d') :=
    List.map_congr_left hpart
  rw [useTreeOf, useTreeOf]
  split
  · rename_i segment tree hsegment htree
    rw [hpart tree (by simp [htree])]
  · rfl
  · rfl
  · rw [htrees]

section

variable {d d' : ℕ} {p : RustPhrase}

/-- What is read in a phrase below another is read in both with enough depth. -/
theorem typeIn_congr (h : p.height ≤ d) (h' : p.height ≤ d') : typeIn d p = typeIn d' p := by
  have hmap : (RustType.firstType? p).map (RustType.ofPhrase d) =
      (RustType.firstType? p).map (RustType.ofPhrase d') :=
    RustType.map_firstType?_congr fun q hq hlt =>
      RustType.settles_ofPhrase hq (by omega) (by omega)
  unfold typeIn
  rw [hmap]

theorem fieldOf_congr (h : p.height ≤ d) (h' : p.height ≤ d') : fieldOf d p = fieldOf d' p := by
  unfold fieldOf
  rw [typeIn_congr h h']

theorem structOf_congr (h : p.height ≤ d) (h' : p.height ≤ d') : structOf d p = structOf d' p := by
  have hfields : (p.all .field).map (fieldOf d) = (p.all .field).map (fieldOf d') := by
    refine List.map_congr_left fun q hq => ?_
    have hlt := height_lt_of_mem_parts (List.mem_filter.mp hq).1
    exact fieldOf_congr (by omega) (by omega)
  unfold structOf
  rw [hfields]
  split
  · rename_i sole hsole
    have hmem : sole ∈ p.all .tupleField := by simp [hsole]
    have hlt := height_lt_of_mem_parts (List.mem_filter.mp hmem).1
    rw [typeIn_congr (by omega : sole.height ≤ d) (by omega : sole.height ≤ d')]
  · rfl

theorem receiver_congr (h : p.height ≤ d) (h' : p.height ≤ d') :
    (RustType.firstType? p).bind (RustType.selfName? d) =
      (RustType.firstType? p).bind (RustType.selfName? d') :=
  RustType.bind_firstType?_congr fun q hq hlt =>
    RustType.settles_selfName? hq (by omega) (by omega)

/-- **What an item adds does not depend on the depth** that it is read with. -/
theorem declare_congr (u : SourceUnit) (attributes : List RustPhrase) (h : p.height ≤ d)
    (h' : p.height ≤ d') : declare d u attributes p = declare d' u attributes p := by
  unfold declare
  split
  · rename_i ps
    have htrees : (all .useTree (.node .useItem ps)).map (useTreeOf d) =
        (all .useTree (.node .useItem ps)).map (useTreeOf d') := by
      refine List.map_congr_left fun q hq => ?_
      obtain ⟨hmem, hname⟩ := List.mem_filter.mp hq
      have hlt := height_lt_of_mem_parts hmem
      exact settles_useTreeOf (height_pos_of_isA hname) (by omega) (by omega)
    dsimp only
    rw [htrees]
  · rw [structOf_congr h h']
  · rw [typeIn_congr h h']
  · rfl
  · rfl
  · unfold methodsOf
    rw [receiver_congr h h']
  · rfl

theorem addItem_congr (u : SourceUnit) {item : RustPhrase} (h : item.height ≤ d)
    (h' : item.height ≤ d') : addItem d u item = addItem d' u item := by
  unfold addItem
  cases hsubject : subject? item with
  | none => rfl
  | some p =>
    have hlt := height_lt_of_mem_parts (List.mem_of_find?_eq_some hsubject)
    dsimp only
    rw [declare_congr _ _ (by omega : p.height ≤ d) (by omega : p.height ≤ d')]

end

end RustUnit

end ApiScribe
