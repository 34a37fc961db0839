import ApiScribe.Source.GoUnit
import Mathlib.Data.List.Chain

/-!
# The comment of a function

Reading a source goes once through what stands on its top level, with the comment block that has been
read last at hand.  Said looking back from a declaration:

* `LongestRun` — the comments right before it, as far back as each begins at most one row below the
  end of the one before;
* `Attached` — the lines of this run, if the run ends in the row above the declaration;
* `collect_attached` — functions have the lines that are attached to them, and all comment lines are
  those of the comments.
-/

namespace ApiScribe.GoUnit

open GoDeclaration

/-! ### Runs of comments -/

namespace Item

def lines : Item → List String
  | comment lines _ _ => lines
  | declaration _ _ => []

def IsComment : Item → Prop
  | comment _ _ _ => True
  | declaration _ _ => False

/-- Whether a comment ends in the row above the given one. -/
def EndsAbove (row : ℕ) : Item → Prop
  | comment _ _ lastRow => lastRow + 1 = row
  | declaration _ _ => False

/-- Whether a comment begins at most one row below the end of another. -/
def Meets : Item → Item → Prop
  | comment _ _ lastRow, comment _ row _ => row ≤ lastRow + 1
  | _, _ => False

end Item

/-- Comments of which each begins at most one row below the end of the one before. -/
structure IsRun (run : List Item) : Prop where
  comment : ∀ i ∈ run, i.IsComment
  meets : run.IsChain Item.Meets

/-- The longest run of comments at the end of some items. -/
structure LongestRun (before run : List Item) : Prop extends IsRun run where
  suffix : run <:+ before
  longest : ∀ run', run' <:+ before → IsRun run' → run'.length ≤ run.length

/-- The lines that are attached to a declaration in the given row behind some items: those of the
longest run of comments right before it, if the last of them ends in the row above. -/
def Attached (before : List Item) (row : ℕ) (doc : List String) : Prop :=
  ∃ run, LongestRun before run ∧
    ((∃ i ∈ run.getLast?, i.EndsAbove row) ∧ doc = run.flatMap Item.lines ∨
      (¬ ∃ i ∈ run.getLast?, i.EndsAbove row) ∧ doc = [])

theorem isRun_nil : IsRun [] where
  comment := by simp
  meets := .nil

theorem LongestRun.unique {before run run' : List Item} (h : LongestRun before run)
    (h' : LongestRun before run') : run = run' := by
  have hle := h.longest run' h'.suffix h'.toIsRun
  have hge := h'.longest run h.suffix h.toIsRun
  exact (List.suffix_of_suffix_length_le h.suffix h'.suffix hge).eq_of_length (by omega)

theorem Attached.unique {before : List Item} {row : ℕ} {doc doc' : List String}
    (h : Attached before row doc) (h' : Attached before row doc') : doc = doc' := by
  obtain ⟨run, hrun, hdoc⟩ := h
  obtain ⟨run', hrun', hdoc'⟩ := h'
  obtain rfl := hrun.unique hrun'
  rcases hdoc with ⟨hends, rfl⟩ | ⟨hends, rfl⟩
  · rcases hdoc' with ⟨-, rfl⟩ | ⟨hends', -⟩
    · rfl
    · exact absurd hends hends'
  · rcases hdoc' with ⟨hends', -⟩ | ⟨-, rfl⟩
    · exact absurd hends' hends
    · rfl

theorem isRun_concat {run : List Item} {i : Item} :
    IsRun (run ++ [i]) ↔ IsRun run ∧ i.IsComment ∧ ∀ j ∈ run.getLast?, j.Meets i := by
  constructor
  · rintro ⟨hcomment, hmeets⟩
    rw [List.isChain_append] at hmeets
    obtain ⟨hrun, -, hjoin⟩ := hmeets
    refine ⟨⟨fun j hj => hcomment j (by simp [hj]), hrun⟩, hcomment i (by simp), ?_⟩
    intro j hj
    exact hjoin j hj i (by simp)
  · rintro ⟨⟨hcomment, hmeets⟩, hi, hjoin⟩
    constructor
    · intro j hj
      rcases List.mem_append.mp hj with hj | hj
      · exact hcomment j hj
      · rw [List.mem_singleton.mp hj]
        exact hi
    · refine List.isChain_append.mpr ⟨hmeets, .singleton i, ?_⟩
      intro j hj k hk
      obtain rfl : i = k := by simpa using hk
      exact hjoin j hj

theorem longestRun_declaration (before : List Item) (row : ℕ) (trees : List GoTree) :
    LongestRun (before ++ [.declaration row trees]) [] where
  toIsRun := isRun_nil
  suffix := List.nil_suffix
  longest := by
    intro run hsuffix hrun
    rcases List.suffix_concat_iff.mp hsuffix with rfl | ⟨run', rfl, -⟩
    · simp
    · exact (isRun_concat.mp hrun).2.1.elim

/-- A comment that meets the run goes on with it. -/
theorem LongestRun.concat {before run : List Item} (h : LongestRun before run) {i : Item}
    (hi : i.IsComment) (hmeets : ∀ j ∈ run.getLast?, j.Meets i) :
    LongestRun (before ++ [i]) (run ++ [i]) where
  toIsRun := isRun_concat.mpr ⟨h.toIsRun, hi, hmeets⟩
  suffix := List.suffix_concat_iff.mpr (Or.inr ⟨run, rfl, h.suffix⟩)
  longest := by
    intro run' hsuffix hrun
    rcases List.suffix_concat_iff.mp hsuffix with rfl | ⟨run', rfl, hsuffix'⟩
    · simp
    · have hle := h.longest run' hsuffix' (isRun_concat.mp hrun).1
      simpa using hle

/-- A comment that does not meet the run begins another one. -/
theorem LongestRun.restart {before run : List Item} (h : LongestRun before run) {i j : Item}
    (hi : i.IsComment) (hlast : j ∈ run.getLast?) (hmeets : ¬ j.Meets i) :
    LongestRun (before ++ [i]) [i] where
  toIsRun := isRun_concat.mpr ⟨isRun_nil, hi, by simp⟩
  suffix := List.suffix_append before [i]
  longest := by
    intro run' hsuffix hrun
    rcases List.suffix_concat_iff.mp hsuffix with rfl | ⟨run', rfl, hsuffix'⟩
    · simp
    · obtain ⟨hrun', -, hjoin⟩ := isRun_concat.mp hrun
      have hnil : run' = [] := by
        -- A run that is not empty ends as the longest one does.
        by_contra hne
        have hshort := List.suffix_of_suffix_length_le hsuffix' h.suffix (h.longest _ hsuffix' hrun')
        obtain ⟨front, rfl⟩ := hshort
        rw [List.getLast?_append_of_ne_nil _ hne] at hlast
        exact hmeets (hjoin j hlast)
      simp [hnil]

/-! ### The block at hand -/

/-- The block at hand behind one more item. -/
def Block.step (block : Block) : Item → Block
  | .comment lines row lastRow => block.push lines row lastRow
  | .declaration _ _ => none

/-- The block at hand behind some items. -/
def blockAfter (before : List Item) : Block := before.foldl Block.step none

theorem blockAfter_concat (before : List Item) (i : Item) :
    blockAfter (before ++ [i]) = (blockAfter before).step i := by
  simp [blockAfter]

/-- A block at hand has the lines of the longest run of comments, and the last row of its last
comment. -/
inductive Block.IsRunOf (before : List Item) : Block → Prop
  | none (h : LongestRun before []) : IsRunOf before none
  | some {run : List Item} {lines last : List String} {row lastRow : ℕ} (h : LongestRun before run)
      (hlast : run.getLast? = some (.comment last row lastRow))
      (hlines : lines = run.flatMap Item.lines) : IsRunOf before (some (lines, lastRow))

theorem Block.IsRunOf.step {before : List Item} {block : Block} (h : block.IsRunOf before) (i : Item) :
    (block.step i).IsRunOf (before ++ [i]) := by
  cases i with
  | declaration row trees => exact .none (longestRun_declaration before row trees)
  | comment lines row lastRow =>
    cases h with
    | none h =>
      have hrun := h.concat (i := Item.comment lines row lastRow) trivial (by simp)
      exact .some hrun rfl (by simp [Item.lines])
    | @some run lines' last row' lastRow' h hlast hlines =>
      unfold Block.step Block.push
      dsimp only
      by_cases hmeets : row ≤ lastRow' + 1
      · have hrun := h.concat (i := Item.comment lines row lastRow) trivial
          (by simpa [hlast, Item.Meets] using hmeets)
        rw [if_pos hmeets]
        exact .some hrun List.getLast?_concat (by simp [Item.lines, hlines])
      · have hrun := h.restart (i := Item.comment lines row lastRow) trivial hlast
          (by simpa [Item.Meets] using hmeets)
        rw [if_neg hmeets]
        exact .some hrun rfl (by simp [Item.lines])

theorem isRunOf_blockAfter (before : List Item) : (blockAfter before).IsRunOf before := by
  induction before using List.reverseRecOn with
  | nil =>
    refine .none ⟨isRun_nil, List.suffix_rfl, ?_⟩
    intro run hsuffix _
    exact hsuffix.length_le
  | append_singleton before i ih =>
    rw [blockAfter_concat]
    exact ih.step i

theorem attached_iff {before : List Item} {row : ℕ} {doc : List String} :
    Attached before row doc ↔ doc = (blockAfter before).above row := by
  have hattached : Attached before row ((blockAfter before).above row) := by
    have hblock := isRunOf_blockAfter before
    generalize blockAfter before = block at hblock
    cases hblock with
    | none h => exact ⟨[], h, Or.inr ⟨by simp, rfl⟩⟩
    | @some run lines last row' lastRow h hlast hlines =>
      refine ⟨run, h, ?_⟩
      unfold Block.above
      dsimp only
      by_cases hrow : lastRow + 1 = row
      · exact Or.inl ⟨⟨_, hlast, hrow⟩, by rw [if_pos hrow, hlines]⟩
      · refine Or.inr ⟨?_, if_neg hrow⟩
        rintro ⟨i, hi, hends⟩
        rw [hlast] at hi
        obtain rfl := Option.some.inj hi
        exact hrow hends
  constructor
  · intro h
    exact h.unique hattached
  · rintro rfl
    exact hattached

/-! ### Reading -/

/-- A declaration among the items of a source, with the items before it. -/
structure Placed where
  before : List Item
  row : ℕ
  trees : List GoTree

/-- The declarations among some items that stand behind others. -/
def declarationsFrom (before : List Item) : List Item → List Placed
  | [] => []
  | .comment lines row lastRow :: is => declarationsFrom (before ++ [.comment lines row lastRow]) is
  | .declaration row trees :: is =>
    ⟨before, row, trees⟩ :: declarationsFrom (before ++ [.declaration row trees]) is

/-- What stands on the top level of a source. -/
def topLevel (source : List Char) : List Item :=
  items [] (Tree.ofTokens GoToken.nesting (GoToken.ofSource source))

theorem not_isWord_of_isWord {word word' : String} (hne : word ≠ word') {t : GoTree}
    (h : GoTree.isWord word t = true) : GoTree.isWord word' t = false := by
  unfold GoTree.isWord at *
  cases t with
  | group d opening closing items => rfl
  | leaf token =>
    simp only [Bool.and_eq_true, beq_iff_eq] at h
    simp [h.2, hne]

theorem not_isComment_of_isWord {word : String} {t : GoTree} (h : GoTree.isWord word t = true) :
    GoTree.isComment t = false := by
  unfold GoTree.isWord GoTree.isComment at *
  cases t with
  | group d opening closing items => rfl
  | leaf token =>
    simp only [Bool.and_eq_true, Bool.or_eq_true, beq_iff_eq] at h
    rcases h.1 with hkind | hkind
    · simp [hkind]
    · simp [hkind]

/-- A declaration that begins with another word than that of functions declares none. -/
theorem function?_of_isWord (source : List Char) (doc : List String) {word : String}
    (hne : word ≠ "func") {keyword : GoTree} (h : GoTree.isWord word keyword = true)
    (rest : List GoTree) : function? source doc (keyword :: rest) = none := by
  unfold function?
  rw [List.filter_cons_of_pos (by simp [not_isComment_of_isWord h])]
  cases rest.filter fun t => !GoTree.isComment t with
  | nil => rfl
  | cons n rest => simp [not_isWord_of_isWord hne h]

/-- The comment of a function has no part in what it declares. -/
theorem function?_eq (source : List Char) (doc : List String) (trees : List GoTree) :
    function? source doc trees = (function? source [] trees).map fun f => { f with doc } := by
  unfold function?
  split
  · split
    · rfl
    · split
      · rfl
      · split
        · rfl
        · rfl
  · rfl

theorem functions_declare (source : List Char) (u : SourceUnit) (doc : List String)
    (trees : List GoTree) :
    (declare source u doc trees).functions = u.functions ++ (function? source doc trees).toList := by
  unfold declare
  cases trees with
  | nil => simp [function?]
  | cons keyword rest =>
    dsimp only
    split
    · rename_i himport
      simp [function?_of_isWord source doc (by decide) himport]
    · split
      · rename_i htype
        simp [function?_of_isWord source doc (by decide) htype]
      · rfl

theorem comments_declare (source : List Char) (u : SourceUnit) (doc : List String)
    (trees : List GoTree) : (declare source u doc trees).comments = u.comments := by
  unfold declare
  cases trees with
  | nil => rfl
  | cons keyword rest =>
    dsimp only
    split
    · rfl
    · split
      · rfl
      · rfl

theorem comments_collect (source : List Char) (u : SourceUnit) (block : Block) (is : List Item) :
    (collect source u block is).comments = u.comments ++ is.flatMap Item.lines := by
  induction is generalizing u block with
  | nil => simp [collect]
  | cons i is ih =>
    cases i with
    | comment lines row lastRow =>
      rw [collect, ih]
      simp [Item.lines]
    | declaration row trees =>
      rw [collect, ih, comments_declare]
      simp [Item.lines]

/-- The block at hand is that of the items that have been read. -/
theorem functions_collect (source : List Char) (u : SourceUnit) (before is : List Item) :
    (collect source u (blockAfter before) is).functions = u.functions ++
      (declarationsFrom before is).filterMap fun d =>
        function? source ((blockAfter d.before).above d.row) d.trees := by
  induction is generalizing u before with
  | nil => simp [collect, declarationsFrom]
  | cons i is ih =>
    cases i with
    | comment lines row lastRow =>
      have hblock : (blockAfter before).push lines row lastRow =
          blockAfter (before ++ [.comment lines row lastRow]) :=
        (blockAfter_concat before (.comment lines row lastRow)).symm
      rw [collect, hblock, ih, declarationsFrom]
    | declaration row trees =>
      have hblock : (none : Block) = blockAfter (before ++ [.declaration row trees]) :=
        (blockAfter_concat before (.declaration row trees)).symm
      rw [collect, hblock, ih, functions_declare, declarationsFrom, List.filterMap_cons]
      cases function? source ((blockAfter before).above row) trees with
      | none => simp
      | some f => simp

/-- **Functions have the comments that are attached to them.**  There is one attached comment for
each place, and it does not reach back behind a declaration.  The functions of a unit are those that
its declarations declare, each with the comment that is attached to its place, and the comment lines
are those of all comments in their order. -/
theorem collect_attached (source : List Char) (u : SourceUnit) (is : List Item) :
    (∃ docAt : List Item → ℕ → List String,
      (∀ before row doc, Attached before row doc ↔ doc = docAt before row) ∧
      (∀ before row trees after row',
        docAt (before ++ .declaration row trees :: after) row' = docAt after row') ∧
      (collect source u none is).functions = u.functions ++
        (declarationsFrom [] is).filterMap fun d =>
          (function? source [] d.trees).map fun f => { f with doc := docAt d.before d.row }) ∧
    (collect source u none is).comments = u.comments ++ is.flatMap Item.lines ∧
    ∀ path text, read path text = collect text.toList { path } none (topLevel text.toList) := by
  refine ⟨⟨fun before row => (blockAfter before).above row, ?_, ?_, ?_⟩, ?_, fun _ _ => rfl⟩
  · intro before row doc
    exact attached_iff
  · intro before row trees after row'
    simp [blockAfter, Block.step]
  · have hfunctions := functions_collect source u [] is
    simp only [← function?_eq]
    exact hfunctions
  · exact comments_collect source u none is

/-- A comment behind a declaration is attached to the function in the row below. -/
example : (read "" "package shop\n\n// gap\n\nvar open = 1 // now\nfunc Open() \x7b\x7d\n").functions =
    [{ name := "Open", doc := ["now"] }] := by
  decide +kernel

end ApiScribe.GoUnit
