import ApiScribe.Proofs.Files.Names
import ApiScribe.Proofs.Model.Find
import Mathlib.Data.List.TakeWhile

/-!
# Packages that are there

A search for a declaration fails because something is not found, or a directory cannot be listed
(`Misses.isResolution_or`); and the packages that a scan lists below one that is found are found
themselves (`location?_of_scan`).
-/

namespace ApiScribe

/-! ### Segments of joined paths -/

theorem Text.dropEnd_append (p : Char → Bool) (cs : List Char) :
    dropEnd p cs ++ (cs.reverse.takeWhile p).reverse = cs := by
  unfold dropEnd
  rw [← List.reverse_append, List.takeWhile_append_dropWhile, List.reverse_reverse]

namespace Path

theorem segments_append_slash (p q : String) :
    segments (p ++ "/" ++ q) = segments p ++ segments q := by
  unfold segments
  rw [pieces_append_slash, List.filter_append]

theorem segments_slashes_append {before : List Char} (h : ∀ c ∈ before, c = '/') (cs : List Char) :
    segments (String.ofList (before ++ cs)) = segments (String.ofList cs) := by
  induction before with
  | nil => rfl
  | cons c before ih =>
    have hcut : String.ofList (c :: before ++ cs) = "/" ++ String.ofList (before ++ cs) := by
      rw [h c List.mem_cons_self]
      simp
    rw [hcut, segments_slash_append]
    exact ih fun c hc => h c (List.mem_cons_of_mem _ hc)

theorem segments_append_slashes {after : List Char} (h : ∀ c ∈ after, c = '/') (cs : List Char) :
    segments (String.ofList (cs ++ after)) = segments (String.ofList cs) := by
  cases after with
  | nil => rw [List.append_nil]
  | cons c after =>
    have hcut : String.ofList (cs ++ c :: after) =
        String.ofList cs ++ "/" ++ String.ofList after := by
      rw [h c List.mem_cons_self]
      simp [String.append_assoc]
    have hnone : segments (String.ofList after) = [] := by
      have := segments_slashes_append (fun c hc => h c (List.mem_cons_of_mem _ hc)) []
      rwa [List.append_nil] at this
    rw [hcut, segments_append_slash, hnone, List.append_nil]

theorem segments_dropEnd (cs : List Char) :
    segments (String.ofList (Text.dropEnd (· == '/') cs)) = segments (String.ofList cs) := by
  conv_rhs => rw [← Text.dropEnd_append (· == '/') cs]
  refine (segments_append_slashes (fun c hc => ?_) _).symm
  exact beq_iff_eq.mp (List.mem_takeWhile_imp (p := (· == '/')) (List.mem_reverse.mp hc))

theorem segments_strip (cs : List Char) :
    segments (String.ofList (Text.strip (· == '/') cs)) = segments (String.ofList cs) := by
  unfold Text.strip
  rw [segments_dropEnd]
  conv_rhs => rw [← List.takeWhile_append_dropWhile (p := (· == '/')) (l := cs)]
  refine (segments_slashes_append (fun c hc => ?_) _).symm
  exact beq_iff_eq.mp (List.mem_takeWhile_imp (p := (· == '/')) hc)

variable {p q : String}

theorem segments_join (hq : isAbsolute q = false) :
    segments (join p q) = segments p ++ segments q := by
  unfold join
  by_cases hp : p = ""
  · simp [hp, segments, pieces_empty, isIdle_empty]
  · rw [if_neg (by simp [hq, hp])]
    split
    · rename_i hlast
      obtain ⟨l, hl⟩ := List.getLast?_eq_some_iff.mp hlast
      have hcut : p = String.ofList l ++ "/" ++ "" := by
        rw [← String.ofList_toList (s := p), hl]
        simp
      have hpq : p ++ q = String.ofList l ++ "/" ++ q := by
        conv_lhs => rw [hcut]
        simp
      rw [hpq, segments_append_slash]
      conv_rhs => rw [hcut, segments_append_slash]
      simp [segments, pieces_empty, isIdle_empty]
    · exact segments_append_slash p q

theorem isAbsolute_join (hq : isAbsolute q = false) : isAbsolute (join p q) = isAbsolute p := by
  unfold join
  by_cases hp : p = ""
  · subst hp
    rw [if_pos (by simp), hq]
    rfl
  · rw [if_neg (by simp [hq, hp])]
    split
    · exact isAbsolute_append hp
    · rw [String.append_assoc, isAbsolute_append hp]

theorem join_eq_empty (hq : isAbsolute q = false) : join p q = "" ↔ p = "" ∧ q = "" := by
  unfold join
  by_cases hp : p = ""
  · simp [hp]
  · rw [if_neg (by simp [hq, hp])]
    split <;> simp [hp]

end Path

namespace Workspace

theorem isAbsolute_relative (id : String) : Path.isAbsolute (relative id) = false := by
  have hcut := Text.dropEnd_append (· == '/') (id.toList.dropWhile (· == '/'))
  have hhead := List.head?_dropWhile_not (· == '/') id.toList
  unfold relative Path.isAbsolute Text.strip
  rw [String.toList_ofList]
  cases hrel : Text.dropEnd (· == '/') (id.toList.dropWhile (· == '/')) with
  | nil => rfl
  | cons c cs =>
    rw [hrel] at hcut
    rw [← hcut] at hhead
    simpa using hhead

variable {w : Workspace} {id location : String}

/-! ### Locations -/

theorem directory_of_firstDirectory {paths : List String}
    (h : w.firstDirectory paths = some location) :
    ∃ path ∈ paths, w.files.directory? path = some location :=
  List.exists_of_findSome?_eq_some h

theorem directory_of_location? (h : w.location? id = some location) :
    ∃ path, w.files.directory? path = some location := by
  have hfirst : ∀ paths, w.firstDirectory paths = some location →
      ∃ path, w.files.directory? path = some location := fun paths h =>
    (directory_of_firstDirectory h).imp fun _ h => h.2
  unfold location? entryLocation? at h
  split at h
  · exact hfirst _ h
  · rcases Option.or_eq_some_iff.mp h with h | ⟨-, h⟩
    · exact hfirst _ h
    · rcases Option.or_eq_some_iff.mp h with h | ⟨-, h⟩
      · split at h
        · cases h
        · obtain ⟨entry, -, h⟩ := List.exists_of_findSome?_eq_some h
          obtain ⟨_, -, h⟩ := Option.bind_eq_some_iff.mp h
          exact ⟨_, h⟩
      · exact hfirst _ h

theorem place_of_location? (h : w.location? id = some location) :
    ∃ place es, location = Path.ofSegments place ∧ (∀ name ∈ place, Path.isName name) ∧
      w.files.find location = .ok (place, .dir es) := by
  obtain ⟨path, hpath⟩ := directory_of_location? h
  obtain ⟨place, es, hfind, rfl⟩ := FileTree.directory?_eq_some.mp hpath
  have hnames := FileTree.isName_of_find hfind
  exact ⟨place, es, rfl, hnames,
    FileTree.find_ofSegments hnames (FileTree.find_dir_iff.mp hfind).2.2⟩

theorem normal_location (h : w.location? id = some location) :
    Path.normal location = location := by
  obtain ⟨place, -, rfl, hplace, -⟩ := place_of_location? h
  exact FileTree.normal_ofSegments hplace

/-- The error of a package in a directory that cannot be listed. -/
def Unlisted (w : Workspace) (e : Error) : Prop :=
  ∃ id location cause, w.location? id = some location ∧ w.files.list location = .error cause ∧
    e = .io location cause

theorem unlisted_of_readPackage {e : Error} (h : w.location? id = some location)
    (hread : w.readPackage location = .error e) : w.Unlisted e := by
  obtain ⟨cause, hlist, rfl⟩ := readPackage_error.mp hread
  exact ⟨id, location, cause, h, hlist, rfl⟩

theorem Unlisted.isResolution {e : Error} (h : w.Unlisted e) : e.isResolution = false := by
  obtain ⟨_, _, _, -, -, rfl⟩ := h
  rfl

theorem not_unlisted (hopen : w.files.isOpen) (e : Error) : ¬w.Unlisted e := by
  rintro ⟨id, location, cause, hlocation, hlist, -⟩
  obtain ⟨place, es, -, -, hfind⟩ := place_of_location? hlocation
  rw [list_ok.mpr ⟨place, hfind, FileTree.fault?_of_isOpen hopen place⟩] at hlist
  cases hlist

theorem readPackage_of_isOpen (hopen : w.files.isOpen) (h : w.location? id = some location) :
    ∃ us, w.readPackage location = .ok us := by
  cases hread : w.readPackage location with
  | ok us => exact ⟨us, rfl⟩
  | error e => exact absurd (unlisted_of_readPackage h hread) (not_unlisted hopen e)

end Workspace

/-! ### Failing searches -/

namespace Packages

variable {ps : Packages (Except Error)} {P : Error → Prop}

theorem declaredIn_error (h : ∀ package name e, ps.declared package name = .error e → P e)
    {name : String} {packages : List String} {e : Error}
    (he : ps.declaredIn name packages = .error e) : P e := by
  induction packages with
  | nil => cases he
  | cons package packages ih =>
    rcases except_bind_error.mp he with he | ⟨decl, -, he⟩
    · exact h _ _ _ he
    · cases decl with
      | none => exact ih he
      | some decl => cases he

theorem declaredItem_error (h : ∀ package name e, ps.declared package name = .error e → P e)
    {items : List String} {e : Error} (he : ps.declaredItem items = .error e) : P e := by
  induction items with
  | nil => cases he
  | cons item items ih =>
    unfold declaredItem at he
    split at he
    · exact ih he
    · rcases except_bind_error.mp he with he | ⟨decl, -, he⟩
      · exact h _ _ _ he
      · cases decl with
        | none => exact ih he
        | some decl => cases he

/-- A search fails because something is not found, or as one of its questions does. -/
theorem find_error (hmissing : ∀ e, e.isResolution → P e)
    (hdeclared : ∀ package name e, ps.declared package name = .error e → P e)
    (himported : ∀ package name e, ps.imported package name = .error e → P e)
    {name package : String} {e : Error} (h : ps.find name package = .error e) : P e := by
  unfold find at h
  split at h
  · rcases except_bind_error.mp h with h | ⟨decl, -, h⟩
    · exact hdeclared _ _ _ h
    · cases decl with
      | some decl => cases h
      | none =>
        rcases except_bind_error.mp h with h | ⟨items, -, h⟩
        · exact himported _ _ _ h
        · rcases except_bind_error.mp h with h | ⟨found, -, h⟩
          · exact declaredItem_error hdeclared h
          · cases found with
            | some found => cases h
            | none =>
              cases h
              exact hmissing _ rfl
  · rcases except_bind_error.mp h with h | ⟨decl, -, h⟩
    · exact hdeclared _ _ _ h
    · cases decl with
      | some decl => cases h
      | none =>
        dsimp only at h
        split at h
        · cases h
          exact hmissing _ rfl
        · rcases except_bind_error.mp h with h | ⟨packages, -, h⟩
          · exact himported _ _ _ h
          · cases packages with
            | none =>
              cases h
              exact hmissing _ rfl
            | some packages =>
              rcases except_bind_error.mp h with h | ⟨found, -, h⟩
              · exact declaredIn_error hdeclared h
              · cases found with
                | some found => cases h
                | none =>
                  cases h
                  exact hmissing _ rfl

end Packages

namespace Workspace

variable {w : Workspace} {place : List String} {es es' : List (String × Entry)}
  {id location : String}

theorem unlisted_of_declared {package name : String} {e : Error}
    (h : w.plain.declared package name = .error e) : w.Unlisted e := by
  unfold plain at h
  dsimp only at h
  split at h
  · cases h
  · rename_i location hlocation
    cases hread : w.readPackage location with
    | ok us =>
      rw [hread] at h
      cases h
    | error e' =>
      rw [hread] at h
      cases h
      exact unlisted_of_readPackage hlocation hread

theorem unlisted_of_imported {package name : String} {e : Error}
    (h : w.plain.imported package name = .error e) : e.isResolution ∨ w.Unlisted e := by
  unfold plain at h
  dsimp only at h
  split at h
  · cases h
    exact Or.inl rfl
  · rename_i location hlocation
    cases hread : w.readPackage location with
    | ok us =>
      rw [hread] at h
      cases h
    | error e' =>
      rw [hread] at h
      cases h
      exact Or.inr (unlisted_of_readPackage hlocation hread)

/-- **A search fails because something is not found, or a directory cannot be listed.** -/
theorem Misses.isResolution_or {e : Error} (h : w.Misses e) : e.isResolution ∨ w.Unlisted e := by
  obtain ⟨name, package, h⟩ := h
  rcases except_bind_error.mp h with h | ⟨_, -, h⟩
  · exact Packages.find_error (P := fun e => e.isResolution ∨ w.Unlisted e) (fun _ => Or.inl)
      (fun _ _ _ h => Or.inr (unlisted_of_declared h)) (fun _ _ _ h => unlisted_of_imported h) h
  · cases h

/-! ### Packages below one that is found -/

theorem segments_relative (id : String) : Path.segments (relative id) = Path.segments id := by
  unfold relative
  rw [Path.segments_strip, String.ofList_toList]

theorem segments_idBelow (id : String) {names : List String}
    (h : ∀ name ∈ names, Path.isName name) :
    Path.segments (Package.idBelow id names) = Path.segments id ++ names := by
  cases names with
  | nil => rw [Package.idBelow, List.append_nil]
  | cons name names =>
    have hslash := fun s hs => (Path.isName_iff.mp (h s hs)).1
    have hidle := fun s hs => (Path.isName_iff.mp (h s hs)).2.1
    unfold Package.idBelow
    rw [Path.segments_append_slash, Path.segments_dropEnd, String.ofList_toList,
      Path.segments_joined hslash hidle]

theorem segments_relative_below (id : String) {names : List String}
    (h : ∀ name ∈ names, Path.isName name) :
    Path.segments (relative (Package.idBelow id names)) = Path.segments (relative id) ++ names := by
  rw [segments_relative, segments_relative, segments_idBelow id h]

/-- The directories below which packages are searched for before the entry packages are looked at. -/
def earlyBases (w : Workspace) : List String :=
  w.search.vendoringPath.toList ++ [Path.join w.search.workingDir "vendor"]

/-- The directories below which packages are searched for at last. -/
def lateBases (w : Workspace) : List String :=
  w.search.roots.map (Path.join · "src") ++
    (w.search.stdRoot.map fun root =>
      [Path.join root "src", Path.join (Path.join root "src") "pkg"]).getD []

theorem earlyPaths_eq (w : Workspace) (id : String) :
    w.earlyPaths id = w.earlyBases.map (Path.join · (relative id)) := by
  unfold earlyPaths earlyBases
  cases w.search.vendoringPath <;> rfl

theorem latePaths_eq (w : Workspace) (id : String) :
    w.latePaths id = w.lateBases.map (Path.join · (relative id)) := by
  unfold latePaths lateBases
  cases w.search.stdRoot <;> simp [List.map_map, Function.comp_def]

/-- A package is found if it is a directory below one of the bases. -/
theorem location?_isSome (h : ∃ base ∈ w.earlyBases ++ w.lateBases,
      (w.files.directory? (Path.join base (relative id))).isSome) :
    ∃ location, w.location? id = some location := by
  have hfirst : ((w.firstDirectory (w.earlyPaths id)).or
      (w.firstDirectory (w.latePaths id))).isSome := by
    have happend : (w.firstDirectory (w.earlyPaths id)).or (w.firstDirectory (w.latePaths id)) =
        w.firstDirectory ((w.earlyBases ++ w.lateBases).map (Path.join · (relative id))) := by
      rw [List.map_append, ← earlyPaths_eq, ← latePaths_eq]
      exact List.findSome?_append.symm
    rw [happend, firstDirectory, List.findSome?_isSome_iff]
    obtain ⟨base, hbase, hdir⟩ := h
    exact ⟨_, List.mem_map.mpr ⟨base, hbase, rfl⟩, hdir⟩
  refine Option.isSome_iff_exists.mp ?_
  rw [location?_eq_or, Option.isSome_or, Option.isSome_or]
  rw [Option.isSome_or] at hfirst
  rcases Bool.or_eq_true_iff.mp hfirst with hearly | hlate
  · rw [hearly, Bool.true_or]
  · rw [hlate, Bool.or_true, Bool.or_true]

/-- A path that is not absolute, appended to a base, starts where the base does. -/
theorem startOf_join {base q : String} (hq : Path.isAbsolute q = false) :
    w.files.startOf (Path.join base q) = w.files.startOf base := by
  unfold FileTree.startOf
  rw [Path.isAbsolute_join hq]

theorem find_join_below {base p q : String} {names : List String}
    (hp : Path.isAbsolute p = false) (hq : Path.isAbsolute q = false)
    (hnames : ∀ name ∈ names, Path.isName name) (hne : names ≠ [])
    (hsegments : Path.segments q = Path.segments p ++ names)
    (hfind : w.files.find (Path.join base p) = .ok (place, .dir es))
    (hbelow : w.files.root.at? (place ++ names) = some (.dir es')) :
    w.files.find (Path.join base q) = .ok (place ++ names, .dir es') := by
  obtain ⟨-, hfollow, -⟩ := FileTree.find_dir_iff.mp hfind
  have hq0 : q ≠ "" := by
    rintro rfl
    have : Path.segments "" = [] := by simp [Path.segments, Path.pieces_empty, Path.isIdle_empty]
    rw [this] at hsegments
    exact hne (List.append_eq_nil_iff.mp hsegments.symm).2
  refine FileTree.find_dir_iff.mpr ⟨fun h => hq0 ((Path.join_eq_empty hq).mp h).2, ?_, hbelow⟩
  rw [startOf_join hq, ← startOf_join hp, Path.segments_join hq, hsegments, ← List.append_assoc,
    ← Path.segments_join hp, FileTree.follow_append, hfollow]
  exact FileTree.follow_names hnames hbelow

/-- What is found below a base stands below a directory, unless the path of that is empty. -/
theorem find_of_find_join_below {base p q : String} {names place' : List String}
    (hp : Path.isAbsolute p = false) (hq : Path.isAbsolute q = false)
    (hnames : ∀ name ∈ names, Path.isName name)
    (hsegments : Path.segments q = Path.segments p ++ names) (hpath : Path.join base p ≠ "")
    (hfind : w.files.find (Path.join base q) = .ok (place', .dir es')) :
    ∃ place es, w.files.find (Path.join base p) = .ok (place, .dir es) ∧
      place' = place ++ names := by
  obtain ⟨-, hfollow, hdir⟩ := FileTree.find_dir_iff.mp hfind
  rw [startOf_join hq, ← startOf_join hp, Path.segments_join hq, hsegments, ← List.append_assoc,
    ← Path.segments_join hp, FileTree.follow_append] at hfollow
  cases hhere : FileTree.follow w.files.root (w.files.startOf (Path.join base p))
      (Path.segments (Path.join base p)) with
  | error e =>
    rw [hhere] at hfollow
    cases hfollow
  | ok place =>
    rw [hhere] at hfollow
    have hbelow : FileTree.follow w.files.root place names = .ok place' := hfollow
    obtain ⟨es, hes⟩ := FileTree.isDir_of_follow hbelow hdir
    exact ⟨place, es, FileTree.find_dir_iff.mpr ⟨hpath, hhere, hes⟩,
      FileTree.place_of_follow_names hnames hbelow⟩

/-- **The packages that a scan lists below an entry package are found.** -/
theorem location?_of_scan {entry : String}
    (hentry : w.search.entryPackages.contains entry) (hlocation : w.location? entry = some location)
    {ids : List String} (hscan : Package.scan w.files location entry = .ok ids) (hid : id ∈ ids) :
    ∃ location, w.location? id = some location := by
  have hfirst := hlocation
  rw [location?_of_entry hentry, entryLocation?, earlyPaths_eq, latePaths_eq,
    ← List.map_append] at hfirst
  obtain ⟨path, hpath, hdir⟩ := directory_of_firstDirectory hfirst
  obtain ⟨base, hbase, rfl⟩ := List.mem_map.mp hpath
  obtain ⟨place, es, hfind, hroot⟩ := FileTree.find_directory? hdir
  obtain ⟨result, hwalk, rfl⟩ := except_map_ok.mp hscan
  unfold Package.walk at hwalk
  rw [hroot] at hwalk
  cases hwalk
  obtain ⟨names, hnames, rfl⟩ := List.mem_map.mp hid
  have hat := (FileTree.find_dir_iff.mp hfind).2.2
  obtain ⟨⟨es', hbelow⟩, -⟩ := (Package.mem_places (FileTree.isProper_of_at? hat)).mp hnames
  have hproper := Entry.isName_of_at? (FileTree.isProper_of_at? hat) hbelow
  by_cases hne : names = []
  · subst hne
    exact ⟨location, hlocation⟩
  · have hsub : w.files.root.at? (place ++ names) = some (.dir es') := by
      rw [Entry.at?_append, hat]
      exact hbelow
    refine location?_isSome ⟨base, hbase, ?_⟩
    have hfound := find_join_below (isAbsolute_relative entry) (isAbsolute_relative _) hproper hne
      (segments_relative_below entry hproper) hfind hsub
    rw [FileTree.directory?_eq_some.mpr ⟨_, _, hfound, rfl⟩]
    rfl

end Workspace

end ApiScribe
