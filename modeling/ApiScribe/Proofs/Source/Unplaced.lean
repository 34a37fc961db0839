import ApiScribe.Source.Language

/-!
# Sources without their paths

The path of a source is noted in its unit and nowhere else: `Language.read_unplaced`.
-/

namespace ApiScribe

/-- What a source tells, without the path under which it was read. -/
def SourceUnit.unplaced (u : SourceUnit) : SourceUnit := { u with path := "" }

namespace GoUnit

theorem declare_unplaced (source : List Char) (u : SourceUnit) (doc : List String)
    (trees : List GoTree) :
    (declare source u doc trees).unplaced = declare source u.unplaced doc trees := by
  unfold declare
  cases trees with
  | nil => rfl
  | cons keyword rest =>
    dsimp only
    split
    · rfl
    · split <;> rfl

theorem collect_unplaced (source : List Char) (u : SourceUnit) (block : Block) (is : List Item) :
    (collect source u block is).unplaced = collect source u.unplaced block is := by
  induction is generalizing u block with
  | nil => rfl
  | cons i is ih =>
    cases i with
    | comment lines row lastRow => exact ih _ _
    | declaration row trees =>
      rw [collect, ih, declare_unplaced]
      rfl

end GoUnit

namespace RustUnit

theorem declare_unplaced (depth : Nat) (u : SourceUnit) (attributes : List RustPhrase)
    (p : RustPhrase) :
    (declare depth u attributes p).unplaced = declare depth u.unplaced attributes p := by
  unfold declare
  split <;> rfl

theorem addItem_unplaced (depth : Nat) (u : SourceUnit) (item : RustPhrase) :
    (addItem depth u item).unplaced = addItem depth u.unplaced item := by
  unfold addItem
  split
  · rfl
  · split
    · rw [declare_unplaced]
      rfl
    · rfl

theorem foldl_addItem_unplaced (depth : Nat) (u : SourceUnit) (items : List RustPhrase) :
    (items.foldl (addItem depth) u).unplaced = items.foldl (addItem depth) u.unplaced := by
  induction items generalizing u with
  | nil => rfl
  | cons i is ih => rw [List.foldl_cons, ih, addItem_unplaced, List.foldl_cons]

end RustUnit

/-- **Reading does not depend on the path**, but for the path that the unit notes. -/
theorem Language.read_unplaced (l : Language) (path path' source : String) :
    (l.read path source).toOption.map SourceUnit.unplaced =
      (l.read path' source).toOption.map SourceUnit.unplaced := by
  cases l with
  | go =>
    show some (GoUnit.read path source).unplaced = some (GoUnit.read path' source).unplaced
    unfold GoUnit.read
    rw [GoUnit.collect_unplaced, GoUnit.collect_unplaced]
    rfl
  | rust =>
    show (RustUnit.read path source).toOption.map SourceUnit.unplaced =
      (RustUnit.read path' source).toOption.map SourceUnit.unplaced
    unfold RustUnit.read
    dsimp only
    split
    · unfold RustUnit.ofFile
      show some _ = some _
      rw [RustUnit.foldl_addItem_unplaced, RustUnit.foldl_addItem_unplaced]
      rfl
    · rfl

end ApiScribe
