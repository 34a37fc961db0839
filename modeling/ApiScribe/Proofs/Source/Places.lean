import ApiScribe.Proofs.Source.Gates
import ApiScribe.Proofs.Source.Relative

/-!
# Imports and types by their paths

* `imports_ofFile` — the imports of a unit are those of the paths in its trees of imports;
* `isTypeIn_ofFile` — the types of a unit stand in its source;
* `read_paths` — so its imports and types follow from the places that the paths in the source are
  taken for, and these are what the paths say unless there is a relative word behind the first.
-/

namespace ApiScribe

/-! ### Units -/

def TypeKind.types : TypeKind → List TypeExpr
  | struct fields => fields.map FieldDecl.type
  | synonym type => [type]
  | interface => []

def SourceUnit.typeExprs (u : SourceUnit) : List TypeExpr :=
  u.types.flatMap fun decl => decl.kind.types

namespace RustUnit

open RustGrammar RustPath RustType Phrase

/-- What is collected from a unit is collected from what its items add. -/
theorem collect_ofFile {β : Type} {f : SourceUnit → List β}
    (happend : ∀ u v : SourceUnit, f (u.append v) = f u ++ f v) (hempty : f .empty = []) (d : ℕ)
    (path : String) (file : RustPhrase) :
    f (ofFile d path file) = f { path, comments := docLines (file.all .innerAttribute) } ++
      (file.all .item).flatMap fun item => f (share d item) := by
  have hshares : ∀ items, f (shares d items) = items.flatMap fun item => f (share d item) := by
    intro items
    induction items with
    | nil => exact hempty
    | cons item items ih =>
      have hcons : shares d (item :: items) = (share d item).append (shares d items) :=
        foldl_addItem d (share d item) items
      rw [hcons, happend, ih, List.flatMap_cons]
  rw [ofFile_eq, happend, hshares]

/-! ### Imports -/

/-- The trees of imports of an item, unless it is for tests only. -/
def useTreesOf (d : ℕ) (item : RustPhrase) : List UseTree :=
  if isTestOnly item then []
  else match subject? item with
    | some p => if p.isA .useItem then (p.all .useTree).map (useTreeOf d) else []
    | none => []

theorem imports_declare (d : ℕ) (u : SourceUnit) (attributes : List RustPhrase) (p : RustPhrase) :
    (declare d u attributes p).imports = u.imports ++
      (if p.isA .useItem then (p.all .useTree).map (useTreeOf d) else []).flatMap
        (UseTree.imports []) := by
  unfold declare
  split
  · rfl
  case h_7 huse _ _ _ _ _ =>
    have hother : p.isA .useItem = false := by
      cases p with
      | leaf t => rfl
      | node k ps => exact beq_eq_false_iff_ne.mpr fun h => huse ps (by cases h; rfl)
    simp [hother]
  all_goals exact (List.append_nil _).symm

theorem imports_share (d : ℕ) (item : RustPhrase) :
    (share d item).imports = (useTreesOf d item).flatMap (UseTree.imports []) := by
  unfold useTreesOf
  split
  · rename_i htest
    rw [share_of_isTestOnly d htest]
    rfl
  · rename_i htest
    cases hsubject : subject? item with
    | none => simp [share, addItem, htest, hsubject, SourceUnit.empty]
    | some p =>
      rw [share_of_subject d (by simpa using htest) hsubject, imports_declare]
      rfl

def useTrees (d : ℕ) (file : RustPhrase) : List UseTree := (file.all .item).flatMap (useTreesOf d)

theorem imports_ofFile (d : ℕ) (path : String) (file : RustPhrase) :
    (ofFile d path file).imports =
      (useTrees d file).flatMap fun tree => tree.leaves.flatMap UseTree.Leaf.imports := by
  rw [collect_ofFile (f := SourceUnit.imports) (fun _ _ => rfl) rfl]
  unfold useTrees
  rw [List.flatMap_assoc]
  simp only [imports_share, funext UseTree.imports_eq]
  rfl

/-! ### Types -/

theorem exists_type {k : Name} (hk : k ∈ [Name.field, .tupleField, .aliasItem])
    {ps : List RustPhrase} (h : grammar.Makes (.node k ps)) : ∃ q ∈ ps, isType q = true := by
  obtain ⟨depth, ts, rest, hrun⟩ := h.exists_run
  have hread : ∀ {ts rest qs}, grammar.read depth (.type true) ts = some (qs, rest) →
      ∃ q ∈ qs, isType q = true := by
    intro ts rest qs hread
    obtain ⟨parts, rfl, -⟩ := Grammar.exists_node_of_read hread
    exact ⟨_, List.mem_singleton_self _, rfl⟩
  simp only [List.mem_cons, List.not_mem_nil, or_false] at hk
  rcases hk with rfl | rfl | rfl
  · obtain ⟨_, _, _, -, htype, rfl⟩ := Rule.run_both hrun
    obtain ⟨q, hq, hqtype⟩ := hread htype
    exact ⟨q, List.mem_append_right _ hq, hqtype⟩
  · obtain ⟨_, _, _, -, htype, rfl⟩ := Rule.run_both hrun
    obtain ⟨q, hq, hqtype⟩ := hread htype
    exact ⟨q, List.mem_append_right _ hq, hqtype⟩
  · obtain ⟨_, _, _, hclause, -, rfl⟩ := Rule.run_both hrun
    obtain ⟨_, _, _, hequals, -, rfl⟩ := Rule.run_both hclause
    obtain ⟨_, _, _, -, htype, rfl⟩ := Rule.run_both hequals
    obtain ⟨q, hq, hqtype⟩ := hread htype
    exact ⟨q, by simp [hq], hqtype⟩

/-- Where a type of a unit stands in its source. -/
def IsTypeIn (d : ℕ) (p : RustPhrase) (t : TypeExpr) : Prop :=
  ∃ q, q.Within p ∧ isType q = true ∧ t = ofPhrase d q

theorem isTypeIn_typeIn {d : ℕ} {k : Name} (hk : k ∈ [Name.field, .tupleField, .aliasItem])
    {p : RustPhrase} (h : grammar.Makes p) (hkind : p.kind? = some k) :
    IsTypeIn d p (typeIn d p) := by
  cases p with
  | leaf t => cases hkind
  | node j ps =>
    cases hkind
    obtain ⟨q, hq, htype⟩ := exists_type hk h
    cases hfirst : firstType? (.node k ps) with
    | none => exact absurd htype (List.find?_eq_none.mp hfirst q hq)
    | some r =>
      have hwithin := within_of_mem_parts (List.mem_of_find?_eq_some hfirst)
      exact ⟨r, hwithin, List.find?_some hfirst, by simp [typeIn, hfirst]⟩

theorem IsTypeIn.within {d : ℕ} {p q : RustPhrase} {t : TypeExpr} (h : IsTypeIn d p t)
    (hp : p.Within q) : IsTypeIn d q t := by
  obtain ⟨r, hr, htype, ht⟩ := h
  exact ⟨r, hr.trans hp, htype, ht⟩

theorem isTypeIn_structOf {d : ℕ} {ps : List RustPhrase} (h : grammar.Makes (.node .structItem ps))
    {t : TypeExpr} (ht : t ∈ (structOf d (.node .structItem ps)).kind.types) :
    IsTypeIn d (.node .structItem ps) t := by
  have hpart : ∀ {k : Name} {q : RustPhrase}, k ∈ [Name.field, .tupleField, .aliasItem] →
      q ∈ all k (.node .structItem ps) → IsTypeIn d (.node .structItem ps) (typeIn d q) := by
    intro k q hk hq
    obtain ⟨hq, hisA⟩ := List.mem_filter.mp hq
    have hkind : q.kind? = some k := beq_iff_eq.mp hisA
    exact (isTypeIn_typeIn hk (h.part hq hkind).2 hkind).within (within_of_mem_parts hq)
  unfold structOf at ht
  dsimp only at ht
  split at ht
  · rename_i sole hsole
    cases List.mem_singleton.mp ht
    exact hpart (k := .tupleField) (by decide) (by simp [hsole])
  · obtain ⟨field, hfield, rfl⟩ := List.mem_map.mp ht
    obtain ⟨q, hq, rfl⟩ := List.mem_map.mp hfield
    exact hpart (k := .field) (by decide) hq

theorem isTypeIn_declare {d : ℕ} {u : SourceUnit} {attributes : List RustPhrase} {p : RustPhrase}
    (h : grammar.Makes p) {t : TypeExpr} (ht : t ∈ (declare d u attributes p).typeExprs) :
    t ∈ u.typeExprs ∨ IsTypeIn d p t := by
  have hnew : ∀ {decl : TypeDecl},
      t ∈ ({ u with types := u.types ++ [decl] } : SourceUnit).typeExprs →
      t ∈ u.typeExprs ∨ t ∈ decl.kind.types := by
    intro decl ht
    simpa [SourceUnit.typeExprs] using ht
  unfold declare at ht
  split at ht
  · exact Or.inl ht
  · exact (hnew ht).imp_right (isTypeIn_structOf h)
  · refine (hnew ht).imp_right fun ht => ?_
    cases List.mem_singleton.mp ht
    exact isTypeIn_typeIn (by decide) h rfl
  · exact (hnew ht).imp_right fun ht => absurd ht List.not_mem_nil
  · exact Or.inl ht
  · exact Or.inl ht
  · exact Or.inl ht

theorem isTypeIn_share {d : ℕ} {item : RustPhrase} (h : grammar.Makes item) {t : TypeExpr}
    (ht : t ∈ (share d item).typeExprs) : IsTypeIn d item t := by
  by_cases htest : isTestOnly item = true
  · rw [share_of_isTestOnly d htest] at ht
    cases ht
  · cases hsubject : subject? item with
    | none =>
      simp [share, addItem, htest, hsubject, SourceUnit.typeExprs, SourceUnit.empty] at ht
    | some p =>
      rw [share_of_subject d (by simpa using htest) hsubject] at ht
      have hwithin := within_of_mem_parts (List.mem_of_find?_eq_some hsubject)
      have hnamed := List.find?_some hsubject
      cases p with
      | leaf t => cases hnamed
      | node k ps =>
        refine IsTypeIn.within ?_ hwithin
        exact (isTypeIn_declare (h.within hwithin rfl) ht).resolve_left List.not_mem_nil

theorem isTypeIn_ofFile {d : ℕ} {path : String} {file : RustPhrase} (h : grammar.Makes file)
    {t : TypeExpr} (ht : t ∈ (ofFile d path file).typeExprs) : IsTypeIn d file t := by
  have happend : ∀ u v : SourceUnit, (u.append v).typeExprs = u.typeExprs ++ v.typeExprs := by
    simp [SourceUnit.typeExprs, SourceUnit.append]
  rw [collect_ofFile happend rfl] at ht
  obtain ⟨item, hitem, ht⟩ := List.mem_flatMap.mp ht
  obtain ⟨hitem, hisA⟩ := List.mem_filter.mp hitem
  have hwithin := within_of_mem_parts hitem
  exact (isTypeIn_share (h.within hwithin (beq_iff_eq.mp hisA)) ht).within hwithin

/-! ### Paths of a source -/

/-- A path that stands in a file: that of an import, or that before the name of a type. -/
inductive Writes (d : ℕ) (file : RustPhrase) : List String → Prop
  | imported {item tree : RustPhrase} {leaf : UseTree.Leaf} (hitem : item.Within file)
      (huse : item.isA .useItem = true) (htree : tree ∈ item.all .useTree)
      (hleaf : leaf ∈ (useTreeOf d tree).leaves) : Writes d file leaf.path
  | typed {p : RustPhrase} {words : List String} {name : String} (hp : p.Within file)
      (h : IsPath p words name) : Writes d file words

theorem writes_of_mem_useTrees {d : ℕ} {file : RustPhrase} {tree : UseTree}
    (h : tree ∈ useTrees d file) {leaf : UseTree.Leaf} (hleaf : leaf ∈ tree.leaves) :
    Writes d file leaf.path := by
  obtain ⟨item, hitem, htree⟩ := List.mem_flatMap.mp h
  have hwithin := within_of_mem_parts (List.mem_filter.mp hitem).1
  unfold useTreesOf at htree
  split at htree
  · cases htree
  split at htree
  · rename_i p hsubject
    split at htree
    · rename_i huse
      obtain ⟨q, hq, rfl⟩ := List.mem_map.mp htree
      have hp := within_of_mem_parts (List.mem_of_find?_eq_some hsubject)
      exact .imported (hp.trans hwithin) huse hq hleaf
    · cases htree
  · cases htree

/-- The words of the paths that a tree of imports writes are names in it. -/
theorem mem_of_mem_leaves {d : ℕ} {p : RustPhrase} {leaf : UseTree.Leaf}
    (h : leaf ∈ (useTreeOf d p).leaves) {word : String} (hword : word ∈ leaf.words) :
    .name word ∈ p.tokens := by
  induction d generalizing p leaf with
  | zero => cases h
  | succ d ih =>
    have hname : ∀ {text : String}, text ∈ p.trees.filterMap nameOf? → .name text ∈ p.tokens := by
      intro text htext
      obtain ⟨t, ht, hname⟩ := List.mem_filterMap.mp htext
      exact mem_of_nameOf? ht hname
    have hpart : ∀ {tree : RustPhrase} {leaf : UseTree.Leaf}, tree ∈ p.all .useTree →
        leaf ∈ (useTreeOf d tree).leaves → word ∈ leaf.words → .name word ∈ p.tokens :=
      fun htree hleaf hword =>
        tokens_subset_of_mem_parts (List.mem_filter.mp htree).1 (ih hleaf hword)
    unfold useTreeOf at h
    split at h
    · rename_i segment tree hsegment htree
      rw [UseTree.leaves_path] at h
      obtain ⟨inner, hinner, rfl⟩ := List.mem_map.mp h
      rcases List.mem_cons.mp hword with rfl | hword
      · exact hname (by simp [hsegment])
      · exact hpart (by simp [htree]) hinner hword
    · rename_i segment hsegment _
      cases List.mem_singleton.mp h
      cases List.mem_singleton.mp hword
      exact hname (by simp [hsegment])
    · rename_i segment _ newName _ hsegment
      cases List.mem_singleton.mp h
      cases List.mem_singleton.mp hword
      exact hname (by simp [hsegment])
    · split at h
      · cases h
      · rw [UseTree.leaves_group] at h
        obtain ⟨subtree, hsubtree, hleaf⟩ := List.mem_flatMap.mp h
        obtain ⟨tree, htree, rfl⟩ := List.mem_map.mp hsubtree
        exact hpart htree hleaf hword

theorem mem_of_mem_segmentName {path : RustPhrase} {word : String}
    (h : word ∈ (path.all .segment).map segmentName) : word = "" ∨ .name word ∈ path.tokens := by
  obtain ⟨segment, hsegment, rfl⟩ := List.mem_map.mp h
  cases hname : segment.trees.head?.bind nameOf? with
  | none => exact Or.inl (by simp [segmentName, hname])
  | some text =>
    obtain ⟨t, ht, htext⟩ := Option.bind_eq_some_iff.mp hname
    have hmem := mem_of_nameOf? (List.mem_of_mem_head? ht) htext
    refine Or.inr ?_
    simp only [segmentName, hname, Option.getD_some]
    exact tokens_subset_of_mem_parts (List.mem_filter.mp hsegment).1 hmem

theorem isWord_of_writes {source : String} {file : RustPhrase} (h : file? source = some file)
    {d : ℕ} {words : List String} (hwords : Writes d file words) {word : String}
    (hword : word ∈ words) : Text.IsWord word := by
  cases hwords with
  | @imported item tree leaf hitem huse htree hleaf =>
    have hmem := mem_of_mem_leaves hleaf (leaf.path_subset hword)
    have htree := within_of_mem_parts (List.mem_filter.mp htree).1
    exact isWord_of_file? h ((htree.trans hitem).tokens_subset hmem)
  | @typed p words name hp hpath =>
    obtain ⟨path, hfirst, hsegments⟩ := hpath.segments
    have hpath := within_of_mem_parts (mem_parts_of_path? hfirst)
    rcases mem_of_mem_segmentName (hsegments ▸ List.mem_append_left _ hword) with rfl | hmem
    · exact Text.isWord_empty
    · exact isWord_of_file? h ((hpath.trans hp).tokens_subset hmem)

/-- **What the paths of a source are taken for.** -/
theorem read_paths {path source : String} {u : SourceUnit} (h : read path source = .ok u) :
    ∃ file, file? source = some file ∧
      u.imports = (useTrees (depthOf source) file).flatMap (fun tree =>
        tree.leaves.flatMap UseTree.Leaf.imports) ∧
      (∀ tree ∈ useTrees (depthOf source) file, ∀ leaf ∈ tree.leaves,
        Writes (depthOf source) file leaf.path) ∧
      (∀ t ∈ u.typeExprs, ∃ p, p.Within file ∧ isType p = true ∧
        t = ofPhrase (depthOf source) p ∧ ∀ id, t.qualifier? = some id → Mentions p id) ∧
      (∀ p words name, p.Within file → IsPath p words name → ¬ IsKnown words name →
        ofPhrase (depthOf source) p = typeAt words name) ∧
      ∀ words, Writes (depthOf source) file words →
        (IsRooted words ↔ words.head? = some "super" ∨ ∀ word ∈ words.tail, ¬ IsRelative word) := by
  obtain ⟨file, hfile, rfl⟩ := (read_eq_ok_iff path).mp h
  obtain ⟨-, hmakes, -⟩ := read_of_file? hfile path
  refine ⟨file, hfile, imports_ofFile _ _ _, ?_, ?_, ?_, ?_⟩
  · exact fun tree htree leaf hleaf => writes_of_mem_useTrees htree hleaf
  · intro t ht
    obtain ⟨p, hp, htype, rfl⟩ := isTypeIn_ofFile hmakes ht
    exact ⟨p, hp, htype, rfl, fun id hid => mentions_of_qualifier htype hid⟩
  · intro p words name hp hpath hknown
    obtain ⟨joined, ps, rfl⟩ := exists_of_isType hpath.isType
    exact ofPhrase_of_isPath (hmakes.within hp rfl) hpath hknown _
  · intro words hwords
    exact isRooted_iff fun word hword => (isWord_of_writes hfile hwords hword).not_mem (by decide)

/-- Paths from the root of the library, and one from the package above. -/
theorem read_paths_cart :
    let source := "use crate::cart::\x7bself, Order\x7d;\ntype Basket = super::Basket;\n"
    let u : SourceUnit := {
      path := ""
      types := [⟨"Basket", .synonym (.unsupported "super::Basket")⟩]
      imports := [{ path := "cart" }, { path := "cart/Order" }] }
    read "" source = .ok u ∧ ∃ file, file? source = some file ∧
      u.imports = (useTrees (depthOf source) file).flatMap fun tree =>
        tree.leaves.flatMap UseTree.Leaf.imports := by
  intro source u
  have hread : read "" source = .ok u := except_of_toOption (by decide +kernel)
  obtain ⟨file, hfile, himports, -⟩ := read_paths hread
  exact ⟨hread, file, hfile, himports⟩

/-- Behind `self`, a path through `super` is taken for a package, for an import as for a type. -/
theorem read_paths_differs :
    (¬ ∀ (path source : String) (u : SourceUnit), read path source = .ok u →
      ∀ i ∈ u.imports, ∀ word ∈ Path.pieces i.path, ¬ IsRelative word) ∧
    ¬ ∀ (path source : String) (u : SourceUnit), read path source = .ok u →
      ∀ t ∈ u.typeExprs, ∀ id, t.qualifier? = some id →
        ∀ word ∈ Path.pieces id, ¬ IsRelative word := by
  constructor
  · intro hall
    have hread : read "input" "use self::super::common;\n" =
        .ok { path := "input", imports := [{ path := "super/common" }] } :=
      except_of_toOption (by decide +kernel)
    exact hall _ _ _ hread _ (List.mem_singleton_self _) "super" (by decide) (by decide)
  · intro hall
    have hread : read "input" "type Basket = self::super::Basket;\n" =
        .ok {
          path := "input"
          types := [⟨"Basket", .synonym (.named (some "super") "Basket")⟩] } :=
      except_of_toOption (by decide +kernel)
    exact hall _ _ _ hread _ (List.mem_singleton_self _) "super" rfl "super" (by decide) (by decide)

end RustUnit

end ApiScribe
