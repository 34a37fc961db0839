import ApiScribe.Proofs.Source.Relative
import ApiScribe.Source.UseWalk
import Mathlib.Data.List.Basic
import Mathlib.Logic.Relation

/-!
# Grouped imports and single paths

A declaration of imports with groups is short for several declarations, one for each path.

* `UseTree.walk_apply` — a walk adds the imports of its tree and comes back to where it started;
* `UseTree.Opens` — a group is opened: what stands before it is put before each of its trees;
* `UseTree.isExpansion_iff` — when all groups are opened, in whatever order, the same single paths are
  left;
* `UseTree.StandsFor` — what a single path imports, rule by rule;
* `UseTree.walk_expansion` — so a walk adds what the single paths import, in their order.
-/

namespace ApiScribe.UseTree

open Relation

/-! ### Walks -/

theorem addImport_apply (segments : List String) (newName : Option String) (s : Walk) :
    addImport segments newName s =
      ((), { s with found := s.found ++ importOf segments newName }) := by
  unfold addImport importOf
  cases packageSegments? segments with
  | none =>
    rw [List.append_nil]
    rfl
  | some segments =>
    cases segments with
    | nil =>
      rw [List.append_nil]
      rfl
    | cons segment segments => rfl

mutual

/-- **A walk adds the imports of its tree and comes back to where it started.** -/
theorem walk_apply (tree : UseTree) (s : Walk) :
    walk tree s = ((), { s with found := s.found ++ imports s.before tree }) := by
  cases tree with
  | path segment tree =>
    have hbelow := walk_apply tree { s with before := s.before ++ [segment] }
    calc walk (path segment tree) s
        = ((), { (walk tree { s with before := s.before ++ [segment] }).2 with
            before := (walk tree { s with before := s.before ++ [segment] }).2.before.dropLast }) := by
          rw [walk]
          rfl
      _ = ((), { s with found := s.found ++ imports s.before (path segment tree) }) := by
          rw [hbelow, List.dropLast_concat, imports]
  | name segment =>
    rw [walk, imports]
    exact addImport_apply _ none s
  | renamed segment newName =>
    rw [walk, imports]
    exact addImport_apply _ (some newName) s
  | group trees =>
    rw [walk, imports]
    exact walkAll_apply trees s
  | glob =>
    rw [walk, imports, List.append_nil]
    rfl

theorem walkAll_apply (trees : List UseTree) (s : Walk) :
    walkAll trees s = ((), { s with found := s.found ++ importsOfAll s.before trees }) := by
  cases trees with
  | nil =>
    rw [walkAll, importsOfAll, List.append_nil]
    rfl
  | cons tree trees =>
    calc walkAll (tree :: trees) s = walkAll trees (walk tree s).2 := by
          rw [walkAll]
          rfl
      _ = ((), { s with found := s.found ++ importsOfAll s.before (tree :: trees) }) := by
          rw [walk_apply tree s, walkAll_apply trees, importsOfAll, List.append_assoc]

end

/-- What is imported where only the given tree is declared. -/
def declared (tree : UseTree) : List ImportDecl := (walk tree {}).2.found

theorem declared_eq (tree : UseTree) : tree.declared = imports [] tree := by
  rw [declared, walk_apply, List.nil_append]

/-! ### Groups -/

/-- A tree behind some segments. -/
def behind (before : List String) (tree : UseTree) : UseTree := before.foldr path tree

theorem behind_concat (before : List String) (segment : String) (tree : UseTree) :
    behind (before ++ [segment]) tree = behind before (path segment tree) :=
  List.foldr_append

theorem imports_behind (before words : List String) (tree : UseTree) :
    imports before (behind words tree) = imports (before ++ words) tree := by
  induction words generalizing before with
  | nil => rw [List.append_nil]; rfl
  | cons word words ih =>
    calc imports before (behind (word :: words) tree)
        = imports (before ++ [word]) (behind words tree) := by
          rw [behind, List.foldr_cons, imports]
          rfl
      _ = imports (before ++ word :: words) tree := by rw [ih, List.append_assoc]; rfl

/-- One group of a list of declarations is opened: its trees are declared one by one, each behind what
stood before the group. -/
inductive Opens : List UseTree → List UseTree → Prop
  | group (earlier : List UseTree) (before : List String) (trees later : List UseTree) :
      Opens (earlier ++ [behind before (.group trees)] ++ later)
        (earlier ++ trees.map (behind before) ++ later)

/-- Some declarations of single paths are what is left of a tree when its groups are opened. -/
structure IsExpansion (tree : UseTree) (flat : List UseTree) : Prop where
  opened : ReflTransGen Opens [tree] flat
  single : ∀ t ∈ flat, t.isSingle

theorem singles_behind (before : List String) (tree : UseTree) :
    singles (behind before tree) = (singles tree).map (behind before) := by
  induction before with
  | nil => exact (List.map_id _).symm
  | cons word before ih =>
    calc singles (behind (word :: before) tree)
        = (singles (behind before tree)).map (path word) := by
          rw [behind, List.foldr_cons, singles]
          rfl
      _ = (singles tree).map (behind (word :: before)) := by
          rw [ih, List.map_map]
          rfl

/-- No single path gets lost and none comes in when a group is opened. -/
theorem Opens.singles_eq {trees trees' : List UseTree} (h : Opens trees trees') :
    trees'.flatMap singles = trees.flatMap singles := by
  obtain ⟨earlier, before, trees, later⟩ := h
  have hgroup : (trees.map (behind before)).flatMap singles =
      singles (behind before (.group trees)) := by
    rw [singles_behind, singles, singlesOfAll_eq, List.flatMap_map, List.map_flatMap]
    exact List.flatMap_congr fun tree _ => singles_behind before tree
  simp [hgroup]

theorem singles_of_isSingle {tree : UseTree} (h : tree.isSingle) : singles tree = [tree] := by
  induction tree using isSingle.induct with
  | case1 segment tree ih => rw [singles, ih h]; rfl
  | case2 trees => cases h
  | case3 segment => rw [singles]
  | case4 segment newName => rw [singles]
  | case5 => rw [singles]

theorem isSingle_behind (before : List String) (tree : UseTree) :
    (behind before tree).isSingle = tree.isSingle := by
  induction before with
  | nil => rfl
  | cons word before ih =>
    rw [← ih, behind, List.foldr_cons, isSingle]
    rfl

theorem Opens.within {trees trees' : List UseTree} (h : Opens trees trees')
    (earlier later : List UseTree) :
    Opens (earlier ++ trees ++ later) (earlier ++ trees' ++ later) := by
  obtain ⟨earlier', before, trees, later'⟩ := h
  simpa using Opens.group (earlier ++ earlier') before trees (later' ++ later)

theorem opened_append {trees trees' later later' : List UseTree} (h : ReflTransGen Opens trees trees')
    (hlater : ReflTransGen Opens later later') :
    ReflTransGen Opens (trees ++ later) (trees' ++ later') := by
  have hfirst : ReflTransGen Opens (trees ++ later) (trees' ++ later) :=
    h.lift (· ++ later) fun _ _ hstep => hstep.within [] later
  have hrest : ReflTransGen Opens (trees' ++ later) (trees' ++ later') :=
    hlater.lift (trees' ++ ·) fun _ _ hstep => by simpa using hstep.within trees' []
  exact hfirst.trans hrest

mutual

/-- **All groups can be opened**, and the single paths are left. -/
theorem opened_singles (before : List String) (tree : UseTree) :
    ReflTransGen Opens [behind before tree] ((singles tree).map (behind before)) := by
  cases tree with
  | path segment tree =>
    have hbelow := opened_singles (before ++ [segment]) tree
    rw [singles, List.map_map]
    simpa only [Function.comp_def, ← behind_concat] using hbelow
  | group trees =>
    rw [singles]
    exact (opened_singlesOfAll before trees).head (by simpa using Opens.group [] before trees [])
  | name segment => rw [singles]; exact .refl
  | renamed segment newName => rw [singles]; exact .refl
  | glob => rw [singles]; exact .refl

theorem opened_singlesOfAll (before : List String) (trees : List UseTree) :
    ReflTransGen Opens (trees.map (behind before)) ((singlesOfAll trees).map (behind before)) := by
  cases trees with
  | nil => rw [singlesOfAll]
  | cons tree trees =>
    rw [singlesOfAll, List.map_append]
    exact opened_append (opened_singles before tree) (opened_singlesOfAll before trees)

end

/-- **However the groups of a tree are opened, its single paths are left**, in their order. -/
theorem isExpansion_iff {before : List String} {tree : UseTree} {flat : List UseTree} :
    IsExpansion (behind before tree) flat ↔ flat = (singles tree).map (behind before) := by
  constructor
  · rintro ⟨hopened, hsingle⟩
    have hkept : flat.flatMap singles = [behind before tree].flatMap singles := by
      clear hsingle
      induction hopened with
      | refl => rfl
      | tail _ hstep ih => exact hstep.singles_eq.trans ih
    have hflat : flat.flatMap singles = flat.flatMap fun t => [t] :=
      List.flatMap_congr fun t ht => singles_of_isSingle (hsingle t ht)
    rw [List.flatMap_singleton'] at hflat
    rw [← hflat, hkept, List.flatMap_singleton, singles_behind]
  · rintro rfl
    refine ⟨opened_singles before tree, fun _ hmem => ?_⟩
    obtain ⟨t, ht, rfl⟩ := List.mem_map.mp hmem
    rw [isSingle_behind]
    exact isSingle_of_mem_singles ht

/-! ### Single paths -/

/-- What a path imports, under a name of its own if it is given one. -/
inductive Imported (newName : Option String) : List String → List ImportDecl → Prop
  | nothing : Imported newName [] []
  /-- A path that leads upwards. -/
  | upwards (words : List String) : Imported newName ("super" :: words) []
  /-- The package of the file itself. -/
  | own {word : String} (h : word = "crate" ∨ word = "self") : Imported newName [word] []
  /-- A package that is named from that of the file. -/
  | below {word : String} (h : word = "crate" ∨ word = "self") (next : String) (words : List String) :
      Imported newName (word :: next :: words)
        [{ path := Path.joined (next :: words), givenName := newName }]
  | elsewhere {word : String} (h : ¬ RustPath.IsRelative word) (words : List String) :
      Imported newName (word :: words)
        [{ path := Path.joined (word :: words), givenName := newName }]

/-- What a single path imports behind some segments; `self` at its end stands for what is before it. -/
inductive StandsFor : List String → UseTree → List ImportDecl → Prop
  | path {before : List String} {segment : String} {tree : UseTree} {is : List ImportDecl}
      (h : StandsFor (before ++ [segment]) tree is) : StandsFor before (.path segment tree) is
  | name {before : List String} {segment : String} {is : List ImportDecl} (hself : segment ≠ "self")
      (h : Imported none (before ++ [segment]) is) : StandsFor before (.name segment) is
  | itself {before : List String} {is : List ImportDecl} (h : Imported none before is) :
      StandsFor before (.name "self") is
  | renamed {before : List String} {segment newName : String} {is : List ImportDecl}
      (hself : segment ≠ "self") (h : Imported (some newName) (before ++ [segment]) is) :
      StandsFor before (.renamed segment newName) is
  | itselfRenamed {before : List String} {newName : String} {is : List ImportDecl}
      (h : Imported (some newName) before is) : StandsFor before (.renamed "self" newName) is
  | glob {before : List String} : StandsFor before .glob []

theorem imported_importOf (newName : Option String) (words : List String) :
    Imported newName words (importOf words newName) := by
  cases words with
  | nil => exact .nothing
  | cons word words =>
    by_cases hsuper : word = "super"
    · subst hsuper
      exact .upwards words
    by_cases hroot : word = "crate" ∨ word = "self"
    · cases words with
      | nil =>
        have hown : Imported newName [word] [] := .own hroot
        rcases hroot with rfl | rfl <;> exact hown
      | cons next words =>
        have hbelow : Imported newName (word :: next :: words)
            [{ path := Path.joined (next :: words), givenName := newName }] := .below hroot next words
        rcases hroot with rfl | rfl <;> exact hbelow
    · have hplain : ¬ RustPath.IsRelative word := by
        simp only [RustPath.IsRelative, RustPath.relativeWords, List.mem_cons, List.not_mem_nil]
        tauto
      rw [importOf, RustPath.packageSegments?_of_plain words hplain]
      exact .elsewhere hplain words

theorem imported_iff {newName : Option String} {words : List String} {is : List ImportDecl} :
    Imported newName words is ↔ is = importOf words newName := by
  constructor
  · intro h
    cases h with
    | nothing => rfl
    | upwards words => rfl
    | own h => rcases h with rfl | rfl <;> rfl
    | below h next words => rcases h with rfl | rfl <;> rfl
    | elsewhere h words =>
      rw [importOf, RustPath.packageSegments?_of_plain words h]
      rfl
  · rintro rfl
    exact imported_importOf newName words

theorem standsFor_iff {before : List String} {tree : UseTree} {is : List ImportDecl}
    (h : tree.isSingle) : StandsFor before tree is ↔ is = imports before tree := by
  induction tree using isSingle.induct generalizing before with
  | case1 segment tree ih =>
    rw [imports, ← ih h]
    constructor
    · intro h
      cases h with
      | path h => exact h
    · exact .path
  | case2 trees => cases h
  | case3 segment =>
    rw [imports, ← imported_iff]
    constructor
    · intro h
      cases h with
      | name hself h => rwa [extend, if_neg hself]
      | itself h => exact h
    · intro h
      by_cases hself : segment = "self"
      · subst hself
        exact .itself h
      · rw [extend, if_neg hself] at h
        exact .name hself h
  | case4 segment newName =>
    rw [imports, ← imported_iff]
    constructor
    · intro h
      cases h with
      | renamed hself h => rwa [extend, if_neg hself]
      | itselfRenamed h => exact h
    · intro h
      by_cases hself : segment = "self"
      · subst hself
        exact .itselfRenamed h
      · rw [extend, if_neg hself] at h
        exact .renamed hself h
  | case5 =>
    rw [imports]
    constructor
    · intro h
      cases h with
      | glob => rfl
    · rintro rfl
      exact .glob

/-- A tree behind some segments imports what its single paths do, each declared with the segments. -/
theorem imports_eq_declared (before : List String) (tree : UseTree) :
    imports before tree = ((singles tree).map (behind before)).flatMap declared := by
  rw [imports_eq_singles, List.flatMap_map]
  refine List.flatMap_congr fun t _ => ?_
  rw [declared_eq, imports_behind, List.nil_append]

/-- **Grouped imports mean their single paths.**  When the groups of a declaration are opened one by one
until none is left, the same single paths come out whatever the order, and each of them imports what
the rules say.  A walk through the tree adds the imports of these paths, from left to right, and leaves
the path that it started with as it was; so does `imports`. -/
theorem walk_expansion (before : List String) (tree : UseTree) (found : List ImportDecl) :
    ∃ flat : List UseTree,
      (∀ trees, IsExpansion (behind before tree) trees ↔ trees = flat) ∧
      (∀ t ∈ flat, ∀ is, StandsFor [] t is ↔ is = t.declared) ∧
      walk tree { before, found } = ((), { before, found := found ++ flat.flatMap declared }) ∧
      imports before tree = flat.flatMap declared := by
  refine ⟨(singles tree).map (behind before), fun trees => isExpansion_iff, fun t ht is => ?_, ?_,
    imports_eq_declared before tree⟩
  · rw [declared_eq]
    exact standsFor_iff ((isExpansion_iff.mpr rfl).single t ht)
  · rw [walk_apply, imports_eq_declared]

/-- A group in a group; all behind `acme`. -/
example : (walk (.path "shop" (.group
      [.name "self", .path "api" (.group [.renamed "orders" "o", .glob]), .name "cart"]))
      { before := ["acme"] }).2 =
    { before := ["acme"]
      found := [{ path := "acme/shop" }, { path := "acme/shop/api/orders", givenName := some "o" },
        { path := "acme/shop/cart" }] } := by
  decide

end ApiScribe.UseTree
