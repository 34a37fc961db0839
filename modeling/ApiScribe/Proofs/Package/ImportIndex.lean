import ApiScribe.Proofs.Model.Growth
import ApiScribe.Proofs.Package.Contents

/-!
# The index of imports

Recording the imports of a directory makes two things of one listing: a table of the imported packages
by the names that stand for them, and the list of all that are imported.

* `importsOf_readPackage` — the imports of a directory, file by file;
* `mem_recorded_iff` — a package is in the list if it is in the table;
* `recordImports_index` — what is recorded the first time, and that nothing is recorded later.
-/

namespace ApiScribe.Workspace

variable {w : Workspace}

/-! ### The imports of a directory -/

/-- The imports in a file of a directory, none if it cannot be read. -/
def importsIn (w : Workspace) (path name : String) : List ImportDecl :=
  ((w.readFile (Path.join path name)).toOption.map (·.imports)).getD []

theorem importsOf_readPackage {path : String} {place : List String} {es : List (String × Entry)}
    (hfind : w.files.find path = .ok (place, .dir es)) (hfault : w.files.fault? place = none) :
    ∃ us, w.readPackage path = .ok us ∧
      w.importsOf us = ((((es.filter fun e => e.2.isFile && w.language.ownsName e.1).map
        Prod.fst).flatMap (w.importsIn path)).filter fun i => !w.isIgnored i.path) := by
  refine ⟨_, readPackage_ok.mpr ⟨place, es, hfind, hfault, rfl⟩, congrArg (List.filter _) ?_⟩
  induction es.filter fun e => e.2.isFile && w.language.ownsName e.1 with
  | nil => rfl
  | cons e es ih =>
    rw [List.map_cons, List.map_cons, List.flatMap_cons, ← ih, List.filterMap_cons, importsIn]
    cases (w.readFile (Path.join path e.1)).toOption with
    | none => rfl
    | some u => rfl

theorem sourceNames_sorted {es : List (String × Entry)} (h : Entry.areProper es) :
    ((es.filter fun e => e.2.isFile && w.language.ownsName e.1).map Prod.fst).Pairwise (· < ·) ∧
      ∀ name, name ∈ (es.filter fun e => e.2.isFile && w.language.ownsName e.1).map Prod.fst ↔
        (∃ e, es.lookup name = some e ∧ e.isFile) ∧ w.language.ownsName name := by
  refine ⟨List.pairwise_map.mpr ((Entry.areProper_iff.mp h).1.filter _), fun name => ?_⟩
  constructor
  · rintro hname
    obtain ⟨⟨_, e⟩, he, rfl⟩ := List.mem_map.mp hname
    obtain ⟨hmem, hsource⟩ := List.mem_filter.mp he
    obtain ⟨hfile, howned⟩ := Bool.and_eq_true_iff.mp hsource
    exact ⟨⟨e, (Entry.mem_iff_lookup h).mp hmem, hfile⟩, howned⟩
  · rintro ⟨⟨e, hlookup, hfile⟩, howned⟩
    refine List.mem_map.mpr ⟨(name, e), List.mem_filter.mpr ⟨?_, ?_⟩, rfl⟩
    · exact (Entry.mem_iff_lookup h).mpr hlookup
    · exact Bool.and_eq_true_iff.mpr ⟨hfile, howned⟩

/-! ### The table and the list -/

theorem mem_pathsUnder {name path : String} {is : List ImportDecl} :
    path ∈ pathsUnder name is ↔ ∃ i ∈ is, i.localName = name ∧ i.path = path := by
  unfold pathsUnder
  rw [mem_firsts_id]
  simp [and_assoc]

theorem pathsUnder_eq_nil {name : String} {is : List ImportDecl} :
    pathsUnder name is = [] ↔ is.filter (fun i => i.localName = name) = [] := by
  unfold pathsUnder
  cases is.filter fun i => i.localName = name with
  | nil => exact ⟨fun _ => rfl, fun _ => rfl⟩
  | cons i is => exact ⟨nofun, nofun⟩

/-- **A package is listed if it is in the table**, under whatever name. -/
theorem mem_recorded_iff (w : Workspace) (us : List SourceUnit) {path : String} :
    path ∈ firsts id ((w.importsOf us).map (·.path)) ↔
      ∃ name paths, (w.tableOf us).get? name = some paths ∧ path ∈ paths := by
  rw [mem_firsts_id]
  constructor
  · intro h
    obtain ⟨i, hi, rfl⟩ := List.mem_map.mp h
    have hmem : i.path ∈ pathsUnder i.localName (w.importsOf us) :=
      mem_pathsUnder.mpr ⟨i, hi, rfl, rfl⟩
    refine ⟨i.localName, _, ?_, hmem⟩
    rw [get?_tableOf, if_neg (List.ne_nil_of_mem hmem)]
  · rintro ⟨name, paths, hget, hmem⟩
    rw [get?_tableOf] at hget
    split at hget
    · cases hget
    · cases hget
      obtain ⟨i, hi, -, rfl⟩ := mem_pathsUnder.mp hmem
      exact List.mem_map_of_mem hi

theorem recordImports_new {m : Memory} (hm : Coherent w m) {path : String} {us : List SourceUnit}
    (hread : w.readPackage path = .ok us) (hnew : m.importTable? path = none) :
    ∃ m', w.recordImports path m = (.ok (firsts id ((w.importsOf us).map (·.path))), m') ∧
      m'.importTable? path = some (w.tableOf us) := by
  have hcontains : ¬m.imports.contains (Path.normal path) := fun hc => by
    obtain ⟨table, htable⟩ := KeyMap.contains_iff.mp hc
    cases hnew.symm.trans htable
  rw [recordImports_apply, if_neg hcontains]
  rcases hm.toSound.loadPackage path with ⟨e, he, -⟩ | ⟨us', units, hus, hload, -⟩
  · cases hread.symm.trans he
  · have hsame := hus.unplaced_eq (readsAs_of_readPackage hread)
    rw [hload]
    dsimp only
    rw [importsOf_congr hsame, tableOf_congr hsame]
    refine ⟨_, congrArg (fun paths => (Except.ok paths, _)) ?_, KeyMap.get?_insert_self _ _ _⟩
    exact foldl_pushNew_firsts [] _

theorem recordImports_known {m : Memory} {path : String} {table : ImportTable}
    (h : m.importTable? path = some table) : w.recordImports path m = (.ok [], m) := by
  rw [recordImports_apply, if_pos (KeyMap.contains_iff.mpr ⟨table, h⟩)]

/-- A directory that cannot be listed has no imports recorded. -/
theorem recordImports_error {m : Memory} (hm : Coherent w m) {path : String} {e : Error}
    (hread : w.readPackage path = .error e) (hnew : m.importTable? path = none) :
    w.recordImports path m = (.error e, m) := by
  have hcontains : ¬m.imports.contains (Path.normal path) := fun hc => by
    obtain ⟨table, htable⟩ := KeyMap.contains_iff.mp hc
    cases hnew.symm.trans htable
  rw [recordImports_apply, if_neg hcontains]
  rcases hm.toSound.loadPackage path with ⟨e', he, hload⟩ | ⟨us, units, hus, hload, -⟩
  · cases he.symm.trans hread
    rw [hload]
  · obtain ⟨_, hus, -⟩ := hus.readPackage
    cases hus.symm.trans hread

/-- **The imports of a directory are recorded once, and in full.**  The imports are those of its source
files, in the order of their names, but for those that are ignored.  The answer are their paths, and
the table holds under each name the paths of those with this local name, each where it is first seen,
and nothing under other names; so a package is in the answer if it is in the table.  Later, whatever
is asked and however the files change, there is no answer for the directory and the table stays.  For
a directory that cannot be listed nothing is recorded. -/
theorem recordImports_index (w : Workspace) (history : List Request) {path : String}
    {place : List String} {es : List (String × Entry)}
    (hfind : w.files.find path = .ok (place, .dir es))
    (hnew : (w.after history).importTable? path = none) :
    match w.files.fault? place with
    | some cause => w.recordImports path (w.after history) = (.error (.io path cause), w.after history)
    | none => ∃ (names : List String) (table : ImportTable) (m : Memory),
      names.Pairwise (· < ·) ∧
      (∀ name, name ∈ names ↔
        (∃ e, es.lookup name = some e ∧ e.isFile) ∧ w.language.ownsName name) ∧
      let imports := (names.flatMap (w.importsIn path)).filter fun i => !w.isIgnored i.path
      let listed := firsts id (imports.map (·.path))
      w.recordImports path (w.after history) = (.ok listed, m) ∧ m.importTable? path = some table ∧
      (∀ name, table.get? name =
        let named := imports.filter fun i => i.localName = name
        if named = [] then none else some (firsts id (named.map (·.path)))) ∧
      (∀ package, package ∈ listed ↔
        ∃ name packages, table.get? name = some packages ∧ package ∈ packages) ∧
      ∀ (later : List (FileTree × Request)) (files : FileTree) (spelling : String),
        Path.normal spelling = Path.normal path →
        recordImports { w with files } spelling (w.amid m later) = (.ok [], w.amid m later) ∧
          (w.amid m later).importTable? spelling = some table := by
  have hm := coherent_after w history
  cases hfault : w.files.fault? place with
  | some cause =>
    have hlist : w.files.list path = .error cause := by
      rw [list_dir hfind, hfault]
      rfl
    exact recordImports_error hm (readPackage_error.mpr ⟨cause, hlist, rfl⟩) hnew
  | none =>
    have hdir : Entry.areProper es := FileTree.isProper_of_at? (FileTree.find_dir_iff.mp hfind).2.2
    obtain ⟨hascending, hnames⟩ := sourceNames_sorted (w := w) hdir
    obtain ⟨us, hread, himports⟩ := importsOf_readPackage hfind hfault
    obtain ⟨m, hrecord, htable⟩ := recordImports_new hm hread hnew
    refine ⟨_, w.tableOf us, m, hascending, hnames, ?_⟩
    rw [← himports]
    refine ⟨hrecord, htable, fun name => ?_, fun package => w.mem_recorded_iff us, ?_⟩
    · rw [get?_tableOf]
      simp only [pathsUnder_eq_nil]
      rfl
    · intro later files spelling hspelling
      have hkept : (w.amid m later).importTable? spelling = some (w.tableOf us) := by
        unfold Memory.importTable?
        rw [hspelling]
        exact (m.within_amid w later).imports _ _ htable
      exact ⟨recordImports_known hkept, hkept⟩

/-- A package that imports from two files, with some packages under one name, and one ignored. -/
def arcade : Workspace where
  search := { ignore := Pattern.read? "^lib/" }
  files := { root := .dir [
    ("games.go", .text "package arcade\n\nimport (\n\t\"acme/models\"\n\tm \"other/models\"\n)\n"),
    ("notes.txt", .text "import \"acme/notes\""),
    ("users.go", .text ("package arcade\n\nimport (\n\t\"acme/models\"\n\t\"lib/pq\"\n" ++
      "\t_ \"x/models\"\n)\n"))] }

/-- The blank name of `x/models` stands for its last segment. -/
theorem recordImports_index_arcade :
    arcade.files.find "/" = .ok ([], .dir arcade.files.root.entries) ∧
    (arcade.after []).importTable? "/" = none ∧
    ∃ (table : ImportTable) (m : Memory),
      arcade.recordImports "/" (arcade.after []) =
        (.ok ["acme/models", "other/models", "x/models"], m) ∧
      table.entries = [("m", ["other/models"]), ("models", ["acme/models", "x/models"])] ∧
      ∀ (later : List (FileTree × Request)) (files : FileTree),
        recordImports { arcade with files } "//." (arcade.amid m later) =
          (.ok [], arcade.amid m later) ∧
        (arcade.amid m later).importTable? "//." = some table := by
  have hfind : arcade.files.find "/" = .ok ([], .dir arcade.files.root.entries) := by rfl
  have hnew : (arcade.after []).importTable? "/" = none := rfl
  have hlisted : (arcade.recordImports "/" (arcade.after [])).1 =
      .ok ["acme/models", "other/models", "x/models"] := except_of_toOption (by decide +kernel)
  have hentries : ((arcade.recordImports "/" (arcade.after [])).2.importTable? "/").map (·.entries) =
      some [("m", ["other/models"]), ("models", ["acme/models", "x/models"])] := by decide +kernel
  obtain ⟨names, table, m, -, -, hrecord, htable, -, -, hlater⟩ :=
    recordImports_index arcade [] hfind hnew
  refine ⟨hfind, hnew, table, m, ?_, ?_, fun later files => ?_⟩
  · rw [hrecord] at hlisted ⊢
    exact congrArg (·, m) hlisted
  · rw [hrecord, htable] at hentries
    exact Option.some.inj hentries
  · exact hlater later files "//." (by decide +kernel)

end ApiScribe.Workspace
