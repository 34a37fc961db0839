import ApiScribe.Proofs.Files.Spelling
import ApiScribe.Proofs.Source.Depth
import ApiScribe.Proofs.Source.Words
import Mathlib.Data.List.Basic

/-!
# Paths that start from the file

The paths of imports and of types may start from where the file stands, by `crate`, `self` and
`super`:

* `RustPath.place` — what a path is taken for: a package by its id, that of the file, or none;
* `RustPath.isRooted_iff` — when all such words at its start are dropped and a path through `super` is
  taken for none: exactly if it starts with `super`, or if no word but its first is one of them;
* `UseTree.imports_eq` — a tree of imports stands for the places of the paths that it writes;
* `RustType.ofPhrase_of_isPath`, `RustType.mentions_of_qualifier` — a path that is a type stands for
  the place of its words, and no type is in a package but by such a path.
-/

namespace ApiScribe

/-! ### Paths -/

namespace RustPath

/-- The words that say where a place is as seen from the file. -/
def relativeWords : List String := ["crate", "self", "super"]

/-- Whether a word says where a place is as seen from the file. -/
def IsRelative (word : String) : Prop := word ∈ relativeWords

instance : DecidablePred IsRelative := fun word => inferInstanceAs (Decidable (word ∈ relativeWords))

/-- The relative words that a path starts with. -/
def lead (words : List String) : List String := words.takeWhile (IsRelative ·)

/-- What is behind the relative words that a path starts with. -/
def behindLead (words : List String) : List String := words.dropWhile (IsRelative ·)

/-- What a path can stand for. -/
inductive Place where
  | package (id : String)
  /-- The package of the file itself. -/
  | own
  /-- Nothing that has an id. -/
  | unknown
  deriving DecidableEq, Repr

/-- The place to which the words of a path lead from the root. -/
def placeBehindRoot (words : List String) : Place :=
  if words = [] then .own else .package (Path.joined words)

/-- What a path is taken for. -/
def place (words : List String) : Place :=
  match packageSegments? words with
  | none => .unknown
  | some words => placeBehindRoot words

/-- A path is taken for what it says: it is not followed upwards, the other relative words that it
starts with are dropped, and none is left in the id of a package. -/
structure IsRooted (words : List String) : Prop where
  upwards : "super" ∈ lead words → place words = .unknown
  dropped : "super" ∉ lead words → place words = placeBehindRoot (behindLead words)
  plain : ∀ id, place words = .package id → ∀ word ∈ Path.pieces id, ¬ IsRelative word

theorem placeBehindRoot_eq_package {words : List String} {id : String} :
    placeBehindRoot words = .package id ↔ words ≠ [] ∧ Path.joined words = id := by
  unfold placeBehindRoot
  split <;> simp_all

theorem packageSegments?_of_plain {word : String} (words : List String) (h : ¬ IsRelative word) :
    packageSegments? (word :: words) = some (word :: words) := by
  unfold packageSegments?
  split <;> simp_all [IsRelative, relativeWords]

/-- Of the relative words that a path starts with, the first is dropped and no other. -/
theorem place_cons {word : String} (words : List String) (h : word ≠ "super") :
    place (word :: words) = placeBehindRoot (if IsRelative word then words else word :: words) := by
  by_cases hcrate : word = "crate"
  · subst hcrate
    rfl
  by_cases hself : word = "self"
  · subst hself
    rfl
  have hplain : ¬ IsRelative word := by simp [IsRelative, relativeWords, hcrate, hself, h]
  simp [place, packageSegments?_of_plain words hplain, hplain]

theorem lead_of_plain {words : List String} (h : ∀ word ∈ words, ¬ IsRelative word) :
    lead words = [] ∧ behindLead words = words := by
  cases words with
  | nil => exact ⟨rfl, rfl⟩
  | cons word words => simp [lead, behindLead, h word List.mem_cons_self]

/-- A path that is taken for the place behind some words is so by what it says, unless one of these
words is relative. -/
theorem isRooted_iff_of_place {words kept : List String} (hslash : ∀ word ∈ kept, '/' ∉ word.toList)
    (hplace : place words = placeBehindRoot kept)
    (hlead : (∀ word ∈ kept, ¬ IsRelative word) → "super" ∉ lead words ∧ behindLead words = kept) :
    IsRooted words ↔ ∀ word ∈ kept, ¬ IsRelative word := by
  have hpieces : ∀ id, place words = .package id → Path.pieces id = kept := by
    intro id hid
    obtain ⟨hne, rfl⟩ := placeBehindRoot_eq_package.mp (hplace.symm.trans hid)
    exact Path.pieces_joined hslash hne
  constructor
  · intro h
    by_cases hne : kept = []
    · simp [hne]
    · have hid := hplace.trans (placeBehindRoot_eq_package.mpr ⟨hne, rfl⟩)
      exact hpieces _ hid ▸ h.plain _ hid
  · intro hkept
    obtain ⟨hsuper, hbehind⟩ := hlead hkept
    exact ⟨fun h => absurd h hsuper, fun _ => hbehind.symm ▸ hplace,
      fun id hid => (hpieces id hid).symm ▸ hkept⟩

/-- **When a path is taken for what it says**: if it starts with `super`, or if at most the first of
its words is relative. -/
theorem isRooted_iff {words : List String} (hslash : ∀ word ∈ words, '/' ∉ word.toList) :
    IsRooted words ↔ words.head? = some "super" ∨ ∀ word ∈ words.tail, ¬ IsRelative word := by
  cases words with
  | nil => exact iff_of_true ⟨nofun, fun _ => rfl, nofun⟩ (by simp)
  | cons word words =>
    by_cases hsuper : word = "super"
    · subst hsuper
      have hlead : "super" ∈ lead ("super" :: words) := by simp [lead, IsRelative, relativeWords]
      exact iff_of_true ⟨fun _ => rfl, fun h => absurd hlead h, nofun⟩ (Or.inl rfl)
    · have hplace := place_cons words hsuper
      simp only [List.head?_cons, Option.some.injEq, hsuper, List.tail_cons, false_or]
      by_cases hrelative : IsRelative word
      · rw [if_pos hrelative] at hplace
        refine isRooted_iff_of_place (List.forall_mem_cons.mp hslash).2 hplace fun hplain => ?_
        obtain ⟨hlead, hbehind⟩ := lead_of_plain hplain
        have hword : lead (word :: words) = [word] := by
          simpa [lead, hrelative] using hlead
        refine ⟨by simpa [hword] using Ne.symm hsuper, ?_⟩
        simpa [behindLead, hrelative] using hbehind
      · rw [if_neg hrelative] at hplace
        rw [isRooted_iff_of_place hslash hplace fun hplain => ?_]
        · simp [hrelative]
        · obtain ⟨hlead, hbehind⟩ := lead_of_plain hplain
          exact ⟨by simp [hlead], hbehind⟩

/-- The type with a name behind a path. -/
def typeAt (words : List String) (name : String) : TypeExpr :=
  match place words with
  | .package id => .named (some id) name
  | .own => .named none name
  | .unknown => .unsupported ("::".intercalate (words ++ [name]))

end RustPath

/-! ### Trees of imports -/

namespace UseTree

/-- A path of a tree of imports, as it is written, and the name that it is given. -/
structure Leaf where
  words : List String
  givenName : Option String := none
  deriving DecidableEq, Repr

namespace Leaf

/-- A path behind some words. -/
def behind (words : List String) (l : Leaf) : Leaf := { l with words := words ++ l.words }

/-- The path that is imported: `self` at the end stands for what is before it. -/
def path (l : Leaf) : List String :=
  if l.words.getLast? = some "self" then l.words.dropLast else l.words

/-- The import of a path, if it leads to a package with an id. -/
def imports (l : Leaf) : List ImportDecl :=
  match RustPath.place l.path with
  | .package id => [{ path := id, givenName := l.givenName }]
  | .own | .unknown => []

theorem path_subset (l : Leaf) : l.path ⊆ l.words := by
  unfold path
  split
  · exact List.dropLast_subset _
  · exact List.Subset.refl _

theorem imports_behind (before : List String) (segment : String) (givenName : Option String) :
    (behind before { words := [segment], givenName }).imports =
      importOf (extend before segment) givenName := by
  have hpath : (behind before { words := [segment], givenName }).path = extend before segment := by
    simp [behind, path, extend]
  unfold imports importOf RustPath.place
  rw [hpath]
  cases packageSegments? (extend before segment) with
  | none => rfl
  | some words =>
    cases words with
    | nil => rfl
    | cons word words => rfl

end Leaf

/-- Whether a tree has no group in it. -/
def isSingle : UseTree → Bool
  | path _ tree => isSingle tree
  | group _ => false
  | name _ | renamed _ _ | glob => true

mutual

/-- The single paths of a tree, from left to right. -/
def singles : UseTree → List UseTree
  | path segment tree => (singles tree).map (path segment)
  | group trees => singlesOfAll trees
  | name segment => [name segment]
  | renamed segment newName => [renamed segment newName]
  | glob => [glob]

def singlesOfAll : List UseTree → List UseTree
  | [] => []
  | tree :: trees => singles tree ++ singlesOfAll trees

end

theorem singlesOfAll_eq (trees : List UseTree) : singlesOfAll trees = trees.flatMap singles := by
  induction trees with
  | nil => rw [singlesOfAll, List.flatMap_nil]
  | cons tree trees ih => rw [singlesOfAll, List.flatMap_cons, ih]

mutual

theorem isSingle_of_mem_singles {tree t : UseTree} (h : t ∈ singles tree) : t.isSingle := by
  cases tree with
  | path segment tree =>
    rw [singles] at h
    obtain ⟨t, ht, rfl⟩ := List.mem_map.mp h
    rw [isSingle]
    exact isSingle_of_mem_singles ht
  | group trees =>
    rw [singles] at h
    exact isSingle_of_mem_singlesOfAll h
  | name segment => cases List.mem_singleton.mp (by rwa [singles] at h); rfl
  | renamed segment newName => cases List.mem_singleton.mp (by rwa [singles] at h); rfl
  | glob => cases List.mem_singleton.mp (by rwa [singles] at h); rfl

theorem isSingle_of_mem_singlesOfAll {trees : List UseTree} {t : UseTree}
    (h : t ∈ singlesOfAll trees) : t.isSingle := by
  cases trees with
  | nil =>
    rw [singlesOfAll] at h
    cases h
  | cons tree trees =>
    rw [singlesOfAll] at h
    rcases List.mem_append.mp h with h | h
    · exact isSingle_of_mem_singles h
    · exact isSingle_of_mem_singlesOfAll h

end

mutual

theorem imports_eq_singles (before : List String) (tree : UseTree) :
    imports before tree = (singles tree).flatMap (imports before) := by
  cases tree with
  | path segment tree =>
    rw [imports, singles, imports_eq_singles, List.flatMap_map]
    exact List.flatMap_congr fun t _ => by rw [imports]
  | name segment => rw [singles, List.flatMap_singleton]
  | renamed segment newName => rw [singles, List.flatMap_singleton]
  | group trees => rw [imports, singles, importsOfAll_eq_singles]
  | glob => rw [singles, List.flatMap_singleton]

theorem importsOfAll_eq_singles (before : List String) (trees : List UseTree) :
    importsOfAll before trees = (singlesOfAll trees).flatMap (imports before) := by
  cases trees with
  | nil => rw [importsOfAll, singlesOfAll, List.flatMap_nil]
  | cons tree trees =>
    rw [importsOfAll, singlesOfAll, List.flatMap_append, imports_eq_singles before tree,
      importsOfAll_eq_singles]

end

/-- The path that a single path writes; a glob writes none. -/
def leaf? : UseTree → Option Leaf
  | path segment tree => (leaf? tree).map (Leaf.behind [segment])
  | name segment => some { words := [segment] }
  | renamed segment newName => some { words := [segment], givenName := some newName }
  | group _ | glob => none

/-- The paths that a tree writes, in their order. -/
def leaves (tree : UseTree) : List Leaf := tree.singles.filterMap leaf?

theorem leaves_path (segment : String) (tree : UseTree) :
    (path segment tree).leaves = tree.leaves.map (Leaf.behind [segment]) := by
  rw [leaves, leaves, singles, List.filterMap_map, List.map_filterMap]
  exact List.filterMap_congr fun t _ => by rw [Function.comp_apply, leaf?]

theorem leaves_group (trees : List UseTree) : (group trees).leaves = trees.flatMap leaves := by
  rw [leaves, singles, singlesOfAll_eq, List.filterMap_flatMap]
  rfl

theorem imports_of_isSingle {tree : UseTree} (h : tree.isSingle) (before : List String) :
    tree.imports before = tree.leaf?.toList.flatMap fun l => (l.behind before).imports := by
  induction tree using isSingle.induct generalizing before with
  | case1 segment tree ih =>
    rw [imports, leaf?, ih h]
    cases tree.leaf? with
    | none => rfl
    | some l => simp [Leaf.behind]
  | case2 trees => cases h
  | case3 segment => simp [imports, leaf?, Leaf.imports_behind]
  | case4 segment newName => simp [imports, leaf?, Leaf.imports_behind]
  | case5 => simp [imports, leaf?]

/-- **A tree of imports stands for the imports of the paths that it writes.** -/
theorem imports_eq (tree : UseTree) : tree.imports [] = tree.leaves.flatMap Leaf.imports := by
  rw [imports_eq_singles, leaves, List.filterMap_eq_flatMap_toList, List.flatMap_assoc]
  exact List.flatMap_congr fun t ht => imports_of_isSingle (isSingle_of_mem_singles ht) []

end UseTree

/-! ### Types -/

theorem Phrase.Within.tokens_subset {κ α : Type} {p q : Phrase κ α} (h : p.Within q) :
    p.tokens ⊆ q.tokens := by
  induction h with
  | here => exact List.Subset.refl _
  | inside hq hp ih => exact List.Subset.trans ih (tokens_subset_of_mem_parts hq)

/-- The package in which a type is named, through arrays and maps. -/
def TypeExpr.qualifier? : TypeExpr → Option String
  | named qualifier _ => qualifier
  | array element => element.qualifier?
  | map value => value.qualifier?
  | interface | unsupported _ => none

namespace RustType

open RustGrammar RustPath Phrase

/-- A type that is a path: its words before the name, and the name. -/
structure IsPath (p : RustPhrase) (words : List String) (name : String) : Prop where
  isType : isType p = true
  segments : ∃ path, path? p = some path ∧ (path.all .segment).map segmentName = words ++ [name]

/-- Whether a name is that of a wrapper, a collection or a map, whatever stands before it. -/
def IsContainer (name : String) : Prop := name ∈ wrappers ∨ name ∈ collections ∨ name ∈ maps

/-- Whether a path means a JSON value of any type, or a primitive type. -/
def IsBasic (words : List String) (name : String) : Prop :=
  name = "Value" ∧ words.getLast? = some "serde_json" ∨
    (∀ root ∈ words.head?, root ∈ primitiveRoots) ∧ (primitive? name).isSome

/-- Whether a path has a meaning of its own, so that it is not looked up in a package. -/
def IsKnown (words : List String) (name : String) : Prop := IsContainer name ∨ IsBasic words name

/-- Whether a path in a phrase that is looked up in a package is looked up in this one. -/
def Mentions (p : RustPhrase) (id : String) : Prop :=
  ∃ q words name, q.Within p ∧ IsPath q words name ∧ ¬ IsKnown words name ∧ place words = .package id

theorem Mentions.within {p q : RustPhrase} {id : String} (h : Mentions p id) (hq : p.Within q) :
    Mentions q id := by
  obtain ⟨r, words, name, hr, hpath⟩ := h
  exact ⟨r, words, name, hr.trans hq, hpath⟩

theorem ofSegments_of_isBasic {words : List String} {name : String} (h : IsBasic words name) :
    (ofSegments words name).qualifier? = none := by
  unfold ofSegments
  split
  · rfl
  · rename_i hvalue
    obtain ⟨hroot, hprimitive⟩ := h.resolve_left hvalue
    obtain ⟨primitive, hprimitive⟩ := Option.isSome_iff_exists.mp hprimitive
    have hrooted : (words.head?.map primitiveRoots.contains).getD true = true := by
      cases hhead : words.head? with
      | none => rfl
      | some root => simpa using hroot root hhead
    simp only [hrooted, if_true, hprimitive]
    rfl

/-- A path that means nothing else is a type in the package that it is taken for. -/
theorem ofSegments_eq {words : List String} {name : String} (h : ¬ IsBasic words name) :
    ofSegments words name = typeAt words name := by
  obtain ⟨hvalue, hprimitive⟩ := not_or.mp h
  unfold ofSegments
  rw [if_neg hvalue]
  have hnone : (if (words.head?.map primitiveRoots.contains).getD true then primitive? name
      else none) = none := by
    split
    · rename_i hrooted
      by_contra hsome
      refine hprimitive ⟨fun root hroot => ?_, Option.isSome_iff_ne_none.mpr hsome⟩
      simpa [Option.mem_def.mp hroot] using hrooted
    · rfl
  dsimp only
  rw [hnone]
  unfold typeAt place
  cases packageSegments? words with
  | none => rfl
  | some words =>
    cases words with
    | nil => rfl
    | cons word words => rfl

theorem place_of_qualifier {words : List String} {name id : String}
    (h : (typeAt words name).qualifier? = some id) : place words = .package id := by
  unfold typeAt at h
  split at h
  · rename_i hplace
    cases h
    exact hplace
  · cases h
  · cases h

theorem map_segmentName (s : RustPhrase) (ss : List RustPhrase) :
    (s :: ss).map segmentName =
      (s :: ss).dropLast.map segmentName ++ [segmentName ((s :: ss).getLast?.getD s)] := by
  have hsplit := List.dropLast_concat_getLast (List.cons_ne_nil s ss)
  rw [List.getLast?_eq_some_getLast (List.cons_ne_nil s ss), Option.getD_some]
  conv_lhs => rw [← hsplit, List.map_append]
  rfl

theorem exists_of_isType {p : RustPhrase} (h : isType p = true) :
    ∃ joined ps, p = .node (.type joined) ps := by
  cases p with
  | leaf t => cases h
  | node k ps =>
    rcases Bool.or_eq_true_iff.mp h with h | h
    · cases beq_iff_eq.mp h
      exact ⟨true, ps, rfl⟩
    · cases beq_iff_eq.mp h
      exact ⟨false, ps, rfl⟩

theorem of_path? {p path : RustPhrase} (h : path? p = some path) :
    p.first? .furtherBounds = none ∧ p.first? .outerLifetimes = none ∧
      p.first? .pathType = some path := by
  unfold path? at h
  split at h
  · cases h
  · rename_i hends
    simp only [Bool.or_eq_true, Option.isSome_iff_ne_none, not_or, ne_eq, not_not] at hends
    exact ⟨hends.1.1, hends.1.2, h⟩

/-- Beside a path there is nothing in a type but lifetimes before and bounds behind it. -/
theorem kind_beside_path {joined : Bool} {ps : List RustPhrase}
    (h : grammar.Makes (.node (.type joined) ps)) {path q : RustPhrase} (hpath : path ∈ ps)
    (hkind : path.kind? = some .pathType) (hq : q ∈ ps) {k : Name} (hk : q.kind? = some k) :
    k ∈ [Name.outerLifetimes, .pathType, .furtherBounds] := by
  obtain ⟨depth, ts, rest, hrun⟩ := h.exists_run
  obtain ⟨r, hr, hrun⟩ := Rule.run_oneOf hrun
  have hcalled := (Grammar.makes_of_run hrun hpath hkind).1
  simp only [List.mem_cons, List.not_mem_nil, or_false] at hr
  -- The fifth of the alternatives is the only one with a path in it.
  rcases hr with rfl | rfl | rfl | rfl | rfl | rfl
  case inr.inr.inr.inr.inl =>
    obtain ⟨before, ts', behind, hbefore, hbehind, rfl⟩ := Rule.run_both hrun
    obtain ⟨r, hr, hbehind⟩ := Rule.run_oneOf hbehind
    have hpart : ∀ {q : RustPhrase} {k : Name}, q ∈ before ++ behind → q.kind? = some k →
        k = .outerLifetimes ∨ k ∈ r.calls := by
      intro q k hq hk
      rcases List.mem_append.mp hq with hq | hq
      · exact Or.inl (List.mem_singleton.mp (Grammar.makes_of_run hbefore hq hk).1)
      · exact Or.inr (Grammar.makes_of_run hbehind hq hk).1
    have hpathCalled := (hpart hpath hkind).resolve_left (by decide)
    simp only [List.mem_cons, List.not_mem_nil, or_false] at hr
    rcases hpart hq hk with rfl | hcalls
    · decide
    rcases hr with rfl | rfl
    · exact absurd hpathCalled (by decide)
    · clear hk
      revert k
      cases joined <;> decide
  all_goals
    cases joined <;> exact absurd hcalled (by decide)

/-- **A type that is a path stands for the place of the path**, unless its meaning is known. -/
theorem ofPhrase_of_isPath {p : RustPhrase} {words : List String} {name : String}
    (hmakes : grammar.Makes p) (h : IsPath p words name) (hknown : ¬ IsKnown words name) (d : ℕ) :
    ofPhrase (d + 1) p = typeAt words name := by
  obtain ⟨hcontainer, hbasic⟩ := not_or.mp hknown
  obtain ⟨joined, ps, rfl⟩ := exists_of_isType h.isType
  obtain ⟨path, hpath, hsegments⟩ := h.segments
  obtain ⟨hbounds, hlifetimes, hfirst⟩ := of_path? hpath
  have hother : ∀ k, k ∉ [Name.outerLifetimes, .pathType, .furtherBounds] →
      (Phrase.node (Name.type joined) ps : RustPhrase).first? k = none := by
    intro k hk
    refine List.find?_eq_none.mpr fun q hq hkind => hk ?_
    have hisA : path.isA .pathType = true := List.find?_some hfirst
    exact kind_beside_path hmakes (mem_parts_of_first? hfirst) (beq_iff_eq.mp hisA) hq
      (beq_iff_eq.mp hkind)
  rw [ofPhrase]
  simp only [hother .functionType (by decide), hbounds, hlifetimes,
    hother (.boundType true) (by decide), hother (.boundType false) (by decide),
    hother .groupType (by decide), hother .arrayType (by decide),
    hother .referenceType (by decide), hpath, Option.map_some]
  cases hss : path.all .segment with
  | nil => simp [hss] at hsegments
  | cons s ss =>
    rw [hss, map_segmentName] at hsegments
    obtain ⟨hwords, hname⟩ := List.append_inj' hsegments rfl
    rw [← List.singleton_inj.mp hname] at hcontainer hbasic ⊢
    rw [← hwords] at hbasic ⊢
    simp only [IsContainer, not_or, ← List.contains_iff_mem] at hcontainer
    dsimp only
    rw [if_neg hcontainer.1, if_neg hcontainer.2.1, if_neg hcontainer.2.2]
    exact ofSegments_eq hbasic

theorem isType_of_mem_argumentTypes {segment p : RustPhrase} (h : p ∈ argumentTypes segment) :
    isType p = true ∧ p.Within segment := by
  obtain ⟨argument, hargument, htype⟩ := List.mem_filterMap.mp h
  unfold argumentType? at htype
  split at htype
  · rename_i joined ps hparts
    cases htype
    refine ⟨by cases joined <;> rfl, .inside (List.mem_filter.mp hargument).1 ?_⟩
    exact within_of_mem_parts (hparts ▸ List.mem_singleton_self _)
  · cases htype

theorem isType_of_soleType? {group p : RustPhrase} (h : soleType? group = some p) :
    isType p = true := by
  unfold soleType? at h
  split at h
  · obtain ⟨htype, heq⟩ := Option.ite_none_right_eq_some.mp h
    cases heq
    exact htype
  · cases h

/-- **A type is only ever in a package that a path in it is taken for.** -/
theorem mentions_of_qualifier {d : ℕ} {p : RustPhrase} (htype : isType p = true) {id : String}
    (h : (ofPhrase d p).qualifier? = some id) : Mentions p id := by
  induction d generalizing p with
  | zero => cases h
  | succ d ih =>
    -- What is read from a type further below is in a package by the hypothesis.
    have hbelow : ∀ {a q : RustPhrase}, a ∈ p.parts → q.Within a → isType q = true →
        (ofPhrase d q).qualifier? = some id → Mentions p id :=
      fun ha hq htype h => (ih htype h).within (.inside ha hq)
    have hinner : ∀ {a : RustPhrase}, a ∈ p.parts →
        (((firstType? a).map (ofPhrase d)).getD (.unsupported "type")).qualifier? = some id →
        Mentions p id := by
      intro a ha h
      cases hfirst : firstType? a with
      | none =>
        rw [hfirst] at h
        cases h
      | some q =>
        rw [hfirst] at h
        exact hbelow ha (within_of_mem_parts (List.mem_of_find?_eq_some hfirst))
          (List.find?_some hfirst) h
    rw [ofPhrase] at h
    dsimp only at h
    split at h
    · cases h
    split at h
    · cases h
    split at h
    · rename_i group hgroup
      split at h
      · cases h
      split at h
      · rename_i q hsole
        exact hbelow (mem_parts_of_first? hgroup)
          (within_of_mem_parts (mem_parts_of_soleType? hsole).1) (isType_of_soleType? hsole) h
      · cases h
    split at h
    · rename_i array harray
      exact hinner (mem_parts_of_first? harray) h
    split at h
    · rename_i reference hreference
      exact hinner (mem_parts_of_first? hreference) h
    split at h
    · cases h
    · cases h
    · rename_i s ss hsegments
      obtain ⟨path, hpath, hsegments⟩ := Option.map_eq_some_iff.mp hsegments
      have hargument : ∀ {i : ℕ} {q : RustPhrase},
          (argumentTypes ((s :: ss).getLast?.getD s))[i]? = some q →
          (ofPhrase d q).qualifier? = some id → Mentions p id := by
        intro i q hq h
        obtain ⟨htype, hwithin⟩ := isType_of_mem_argumentTypes (List.mem_of_getElem? hq)
        exact hbelow (mem_parts_of_path? hpath)
          (hwithin.trans (within_of_mem_parts (last_mem_parts hsegments))) htype h
      split at h
      · split at h
        · exact hargument ‹_› h
        · cases h
      split at h
      · split at h
        · exact hargument ‹_› h
        · cases h
      split at h
      · split at h
        · exact hargument ‹_› h
        · cases h
      rename_i hwrapper hcollection hmap
      by_cases hbasic : IsBasic ((s :: ss).dropLast.map segmentName)
          (segmentName ((s :: ss).getLast?.getD s))
      · rw [ofSegments_of_isBasic hbasic] at h
        cases h
      · rw [ofSegments_eq hbasic] at h
        refine ⟨p, _, _, .here, ⟨htype, path, hpath, by rw [hsegments, map_segmentName]⟩, ?_,
          place_of_qualifier h⟩
        refine not_or.mpr ⟨?_, hbasic⟩
        simpa only [IsContainer, not_or, ← List.contains_iff_mem] using
          ⟨hwrapper, hcollection, hmap⟩

end RustType

end ApiScribe
