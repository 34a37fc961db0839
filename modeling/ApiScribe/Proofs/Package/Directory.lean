import ApiScribe.Package.Workspace
import ApiScribe.Proofs.Files.Names
import ApiScribe.Proofs.Package.Answer
import ApiScribe.Proofs.Source.Unplaced
import Mathlib.Data.List.Induction

/-!
# What a directory tells under all its spellings

The sources of a directory are read from paths that are spelled with the path of the directory, so
two spellings give different units; they differ in their paths only (`ReadsAs.unplaced_eq`).  What
is made of the units, the types (`typesOf`) and the import table (`tableOf`), is the same, and both are
said of the units as lists (`get?_typesOf`, `get?_tableOf`).
-/

namespace ApiScribe

theorem KeyMap.get?_ofList {α : Type} {es : List (String × α)} {k : String} :
    (ofList es).get? k = (es.reverse.find? fun e => e.1 = k).map Prod.snd := by
  induction es using List.reverseRecOn with
  | nil => rfl
  | append_singleton es e ih =>
    have hlast : ofList (es ++ [e]) = (ofList es).insert e.1 e.2 := by simp [ofList]
    rw [hlast, get?_insert, List.reverse_append, List.reverse_singleton, List.singleton_append,
      List.find?_cons]
    by_cases hk : k = e.1
    · rw [if_pos hk, decide_eq_true hk.symm]
      rfl
    · rw [if_neg hk, ih, decide_eq_false (Ne.symm hk)]

namespace Workspace

variable {w : Workspace}

/-- The import table of some sources. -/
def tableOf (w : Workspace) (units : List SourceUnit) : ImportTable :=
  (w.importsOf units).foldl addImport ∅

/-- The units with no regard to their paths. -/
def unplaced (units : List SourceUnit) : List SourceUnit := units.map SourceUnit.unplaced

theorem typesOf_congr {us us' : List SourceUnit} (h : unplaced us = unplaced us') :
    typesOf us = typesOf us' := by
  have key : ∀ us : List SourceUnit, us.flatMap (·.types) = (unplaced us).flatMap (·.types) := by
    intro us
    rw [unplaced, List.flatMap_map]
    rfl
  unfold typesOf
  rw [key, key us', h]

theorem importsOf_congr {us us' : List SourceUnit} (h : unplaced us = unplaced us') :
    w.importsOf us = w.importsOf us' := by
  have key : ∀ us : List SourceUnit, us.flatMap (·.imports) = (unplaced us).flatMap (·.imports) := by
    intro us
    rw [unplaced, List.flatMap_map]
    rfl
  unfold importsOf
  rw [key, key us', h]

theorem tableOf_congr {us us' : List SourceUnit} (h : unplaced us = unplaced us') :
    w.tableOf us = w.tableOf us' := by
  unfold tableOf
  rw [importsOf_congr h]

/-! ### Tables of sources -/

theorem get?_typesOf (us : List SourceUnit) (name : String) :
    (typesOf us).get? name = (us.flatMap (·.types)).reverse.find? fun decl => decl.name = name := by
  unfold typesOf
  rw [KeyMap.get?_ofList, ← List.map_reverse, List.find?_map, Option.map_map]
  exact congrFun Option.map_id _

/-- The paths that some imports have under a name, each where it is seen first. -/
def pathsUnder (name : String) (is : List ImportDecl) : List String :=
  firsts id ((is.filter fun i => i.localName = name).map (·.path))

theorem pathsUnder_concat (name : String) (is : List ImportDecl) (i : ImportDecl) :
    pathsUnder name (is ++ [i]) =
      if i.localName = name then pushNew (pathsUnder name is) i.path else pathsUnder name is := by
  unfold pathsUnder
  rw [List.filter_append, List.map_append]
  by_cases h : i.localName = name
  · rw [if_pos h]
    simpa [h] using (foldl_pushNew_firsts ((is.filter fun i => i.localName = name).map (·.path))
      [i.path]).symm
  · rw [if_neg h]
    simp [h]

/-- **An import table holds the paths under each name**, and nothing for a name without any. -/
theorem get?_tableOf (w : Workspace) (us : List SourceUnit) (name : String) :
    (w.tableOf us).get? name =
      if pathsUnder name (w.importsOf us) = [] then none
      else some (pathsUnder name (w.importsOf us)) := by
  unfold tableOf
  induction w.importsOf us using List.reverseRecOn with
  | nil => rfl
  | append_singleton is i ih =>
    rw [List.foldl_concat, addImport, KeyMap.get?_insert, pathsUnder_concat]
    by_cases h : name = i.localName
    · subst h
      have hne : pushNew (pathsUnder i.localName is) i.path ≠ [] :=
        List.ne_nil_of_mem (mem_pushNew.mpr (Or.inr rfl))
      have hknown : ((is.foldl addImport ∅).get? i.localName).getD [] =
          pathsUnder i.localName is := by
        rw [ih]
        split
        · rename_i hnil
          exact hnil.symm
        · rfl
      rw [if_pos rfl, if_pos rfl, if_neg hne, hknown]
    · rw [if_neg h, if_neg (Ne.symm h), ih]

/-! ### Reading a directory -/

theorem list_dir {path : String} {place : List String} {es : List (String × Entry)}
    (h : w.files.find path = .ok (place, .dir es)) :
    w.files.list path = (w.files.fault? place).elim (.ok es) .error := by
  unfold FileTree.list
  rw [h]
  dsimp only
  rw [if_neg (by simp [Entry.isFile, Entry.isDir])]
  cases w.files.fault? place <;> rfl

theorem list_ok {path : String} {es : List (String × Entry)} :
    w.files.list path = .ok es ↔
      ∃ place, w.files.find path = .ok (place, .dir es) ∧ w.files.fault? place = none := by
  constructor
  · intro h
    unfold FileTree.list at h
    split at h
    · cases h
    · rename_i place e hfind
      split at h
      · cases h
      · rename_i hdir
        split at h
        · cases h
        · rename_i hfault
          cases h
          cases e with
          | dir es => exact ⟨place, hfind, hfault⟩
          | text _ => simp [Entry.isFile, Entry.isDir] at hdir
          | binary => simp [Entry.isFile, Entry.isDir] at hdir
  · rintro ⟨place, hfind, hfault⟩
    rw [list_dir hfind, hfault]
    rfl

theorem keys_sources {place : List String} {es : List (String × Entry)}
    (h : w.files.root.at? place = some (.dir es)) (p : String × Entry → Bool) :
    (KeyMap.ofList (es.filter p)).keys = (es.filter p).map (·.1) := by
  have hascending := (Entry.areProper_iff.mp (FileTree.isProper_of_at? h)).1
  have hmap := KeyMap.ofList_entries ⟨es.filter p, hascending.filter p⟩
  exact congrArg KeyMap.keys hmap

theorem sourceFiles_ok {path : String} {paths : List String} :
    Package.sourceFiles w.files w.language path = .ok paths ↔
      ∃ place es, w.files.find path = .ok (place, .dir es) ∧ w.files.fault? place = none ∧
        paths = (es.filter fun e => e.2.isFile && w.language.ownsName e.1).map
          fun e => Path.join path e.1 := by
  have hpaths : ∀ {place es}, w.files.find path = .ok (place, .dir es) →
      (KeyMap.ofList (es.filter fun e => e.2.isFile && w.language.ownsName e.1)).keys.map
        (Path.join path) = (es.filter fun e => e.2.isFile && w.language.ownsName e.1).map
          fun e => Path.join path e.1 := by
    intro place es hfind
    rw [keys_sources (FileTree.find_dir_iff.mp hfind).2.2, List.map_map]
    rfl
  unfold Package.sourceFiles
  constructor
  · intro h
    split at h
    · rename_i es hlist
      obtain ⟨place, hfind, hfault⟩ := list_ok.mp hlist
      cases h
      exact ⟨place, es, hfind, hfault, hpaths hfind⟩
    · cases h
  · rintro ⟨place, es, hfind, hfault, rfl⟩
    rw [list_ok.mpr ⟨place, hfind, hfault⟩, ← hpaths hfind]

theorem readPackage_ok {path : String} {us : List SourceUnit} :
    w.readPackage path = .ok us ↔
      ∃ place es, w.files.find path = .ok (place, .dir es) ∧ w.files.fault? place = none ∧
        us = ((es.filter fun e => e.2.isFile && w.language.ownsName e.1).map
          fun e => Path.join path e.1).filterMap fun p => (w.readFile p).toOption := by
  unfold readPackage
  constructor
  · intro h
    obtain ⟨paths, hpaths, rfl⟩ := except_map_ok.mp h
    obtain ⟨place, es, hfind, hfault, rfl⟩ := sourceFiles_ok.mp hpaths
    exact ⟨place, es, hfind, hfault, rfl⟩
  · rintro ⟨place, es, hfind, hfault, rfl⟩
    rw [sourceFiles_ok.mpr ⟨place, es, hfind, hfault, rfl⟩]
    rfl

/-- A directory cannot be read because it cannot be listed. -/
theorem readPackage_error {path : String} {e : Error} :
    w.readPackage path = .error e ↔ ∃ cause, w.files.list path = .error cause ∧ e = .io path cause := by
  unfold readPackage Package.sourceFiles
  cases w.files.list path with
  | ok es =>
    constructor
    · intro h
      cases h
    · rintro ⟨_, h, -⟩
      cases h
  | error cause =>
    constructor
    · intro h
      cases h
      exact ⟨cause, rfl, rfl⟩
    · rintro ⟨_, h, rfl⟩
      cases h
      rfl

theorem readFile_unplaced {p q : String} (h : w.files.find p = w.files.find q) :
    (w.readFile p).toOption.map SourceUnit.unplaced =
      (w.readFile q).toOption.map SourceUnit.unplaced := by
  have hread : w.files.readText p = w.files.readText q := by
    unfold FileTree.readText
    rw [h]
  unfold readFile
  rw [hread]
  cases w.files.readText q with
  | error cause => rfl
  | ok source => exact w.language.read_unplaced p q source

/-! ### Spellings -/

/-- Some spelling of the directory `key` is read as `us`. -/
def ReadsAs (w : Workspace) (key : String) (us : List SourceUnit) : Prop :=
  ∃ path, Path.normal path = key ∧ w.readPackage path = .ok us

theorem readsAs_of_readPackage {path : String} {us : List SourceUnit}
    (h : w.readPackage path = .ok us) : w.ReadsAs (Path.normal path) us := ⟨path, rfl, h⟩

/-- **All spellings of a directory are read as the same units**, but for their paths. -/
theorem ReadsAs.unplaced_eq {key : String} {us us' : List SourceUnit} (h : w.ReadsAs key us)
    (h' : w.ReadsAs key us') : unplaced us = unplaced us' := by
  obtain ⟨p, rfl, hp⟩ := h
  obtain ⟨q, hkey, hq⟩ := h'
  obtain ⟨place, es, hfp, -, rfl⟩ := readPackage_ok.mp hp
  obtain ⟨place', es', hfq, -, rfl⟩ := readPackage_ok.mp hq
  have hsame := FileTree.find_normal_iff.mpr hfq
  rw [hkey, FileTree.find_normal_iff.mpr hfp] at hsame
  cases hsame
  unfold unplaced
  rw [List.filterMap_map, List.filterMap_map, List.map_filterMap, List.map_filterMap]
  refine List.filterMap_congr fun e _ => ?_
  exact readFile_unplaced (FileTree.find_join_congr e.1 hfp hfq)

theorem ReadsAs.readPackage {path : String} {us : List SourceUnit}
    (h : w.ReadsAs (Path.normal path) us) :
    ∃ us', w.readPackage path = .ok us' ∧ unplaced us' = unplaced us := by
  obtain ⟨q, hkey, hq⟩ := h
  obtain ⟨place, es, hf, hfault, -⟩ := readPackage_ok.mp hq
  have hpath := FileTree.find_normal_iff.mpr hf
  rw [hkey, FileTree.find_normal_iff] at hpath
  have hread := readPackage_ok.mpr ⟨place, es, hpath, hfault, rfl⟩
  exact ⟨_, hread, (readsAs_of_readPackage hread).unplaced_eq ⟨q, hkey, hq⟩⟩

end Workspace

end ApiScribe
