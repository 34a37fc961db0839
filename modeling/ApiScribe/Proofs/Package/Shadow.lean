import ApiScribe.Proofs.Model.History
import ApiScribe.Proofs.Package.Discovery

/-!
# Packages that are scanned and looked up again

A scan walks the directory of an entry package and lists ids; the packages are looked up by these ids
later, like any other.  The search for such an id comes to the directory of the walk, at the place in
the order where the entry package has been found, unless another directory comes before it:

* `shadow?` — that other directory;
* `tryResolve_discovered` — a package from a scan is looked up in its shadow, or else in the directory
  of the walk;
* `discovered_elsewhere` — a package that an entry package also holds among its vendored ones is
  looked up there.
-/

namespace ApiScribe.Workspace

variable (w : Workspace)

/-- The directory that comes before the one that a scan of `entry` has found for `id`.  It stands at
the current directory, if the vendoring path is empty and `entry` has no name to be put behind it; or
else among the vendored packages of the entry packages, if `entry` is found behind these in the
order, and `id` is not passed over there. -/
def shadow? (entry id : String) : Option String :=
  (if w.search.vendoringPath = some "" ∧ relative entry = "" then w.files.directory? (relative id)
    else none).or
  (if w.search.disableVendoring ∨ id ∈ w.search.entryPackages ∨
      (w.firstDirectory (w.earlyPaths entry)).isSome then none
    else w.vendored? (relative id))

theorem join_ne_empty {p q : String} (hq : Path.isAbsolute q = false) (hne : q ≠ "") (r : String) :
    Path.join (Path.join p q) (relative r) ≠ "" := by
  intro h
  have hbase := ((Path.join_eq_empty (isAbsolute_relative r)).mp h).1
  exact hne ((Path.join_eq_empty hq).mp hbase).2

theorem lateBases_join_ne (id : String) :
    ∀ base ∈ w.lateBases, Path.join base (relative id) ≠ "" := by
  intro base hbase
  unfold lateBases at hbase
  rcases List.mem_append.mp hbase with hroot | hstd
  · obtain ⟨root, -, rfl⟩ := List.mem_map.mp hroot
    exact join_ne_empty rfl (by decide) id
  · cases hroot : w.search.stdRoot with
    | none => simp [hroot] at hstd
    | some root =>
      rw [hroot] at hstd
      rcases List.mem_cons.mp hstd with rfl | hpkg
      · exact join_ne_empty rfl (by decide) id
      · rw [List.mem_singleton.mp hpkg]
        exact join_ne_empty rfl (by decide) id

theorem firstDirectory_cons (path : String) (paths : List String) :
    w.firstDirectory (path :: paths) = (w.files.directory? path).or (w.firstDirectory paths) := by
  unfold firstDirectory
  rw [List.findSome?_cons]
  cases w.files.directory? path with
  | none => rw [Option.none_or]
  | some _ => rw [Option.some_or]

/-! ### Below one base after the other -/

section

variable {w} {entry location : String} {place names : List String}
  {es es' : List (String × Entry)}

/-- Below bases that give proper paths, the search for a package below `entry` ends where the search
for `entry` does. -/
theorem firstDirectory_below (hne : names ≠ [])
    (hproper : ∀ name ∈ names, Path.isName name)
    (hlocation : w.files.find location = .ok (place, .dir es))
    (hbelow : w.files.root.at? (place ++ names) = some (.dir es')) {bases : List String}
    (hpaths : ∀ base ∈ bases, Path.join base (relative entry) ≠ "")
    (honly : ∀ l, w.firstDirectory (bases.map (Path.join · (relative entry))) = some l →
      l = location) :
    w.firstDirectory (bases.map (Path.join · (relative (Package.idBelow entry names)))) =
      (w.firstDirectory (bases.map (Path.join · (relative entry)))).map
        fun _ => Path.ofSegments (place ++ names) := by
  have hp := isAbsolute_relative entry
  have hq := isAbsolute_relative (Package.idBelow entry names)
  have hsegments := segments_relative_below entry hproper
  induction bases with
  | nil => rfl
  | cons base bases ih =>
    have hrest := ih fun b hb => hpaths b (List.mem_cons_of_mem _ hb)
    rw [List.map_cons, firstDirectory_cons] at honly ⊢
    rw [List.map_cons, firstDirectory_cons]
    cases hdir : w.files.directory? (Path.join base (relative entry)) with
    | some l =>
      -- the search for `entry` ends here, so its location stands at this base
      rw [hdir, Option.some_or] at honly
      obtain rfl := honly l rfl
      obtain ⟨place', es₁, hfind, hback⟩ := FileTree.find_directory? hdir
      rw [hlocation] at hback
      cases hback
      have hfound := find_join_below hp hq hproper hne hsegments hfind hbelow
      rw [FileTree.directory?_eq_some.mpr ⟨_, _, hfound, rfl⟩, Option.some_or, Option.some_or,
        Option.map_some]
    | none =>
      rw [hdir, Option.none_or] at honly
      have hnone : w.files.directory?
          (Path.join base (relative (Package.idBelow entry names))) = none := by
        refine Option.eq_none_iff_forall_ne_some.mpr fun d hd => ?_
        obtain ⟨place', es₁, hfind, -⟩ := FileTree.directory?_eq_some.mp hd
        obtain ⟨_, _, hfound, -⟩ := find_of_find_join_below hp hq hproper hsegments
          (hpaths base List.mem_cons_self) hfind
        rw [FileTree.directory?_eq_some.mpr ⟨_, _, hfound, rfl⟩] at hdir
        cases hdir
      rw [hnone, Option.none_or, Option.none_or]
      exact hrest honly

/-- Early in the order, a package below `entry` is found as `entry` is, or else below the empty
path. -/
theorem firstDirectory_earlyPaths_below (hne : names ≠ [])
    (hproper : ∀ name ∈ names, Path.isName name)
    (hlocation : w.files.find location = .ok (place, .dir es))
    (hbelow : w.files.root.at? (place ++ names) = some (.dir es'))
    (honly : ∀ l, w.firstDirectory (w.earlyPaths entry) = some l → l = location) :
    w.firstDirectory (w.earlyPaths (Package.idBelow entry names)) =
      (if w.search.vendoringPath = some "" ∧ relative entry = "" then
          w.files.directory? (relative (Package.idBelow entry names)) else none).or
        ((w.firstDirectory (w.earlyPaths entry)).map fun _ => Path.ofSegments (place ++ names)) := by
  have hvendor : Path.join (Path.join w.search.workingDir "vendor") (relative entry) ≠ "" :=
    join_ne_empty rfl (by decide) entry
  by_cases hempty : w.search.vendoringPath = some "" ∧ relative entry = ""
  · obtain ⟨hpath, hentry⟩ := hempty
    have hcons : ∀ id, w.firstDirectory (w.earlyPaths id) = (w.files.directory? (relative id)).or
        (w.firstDirectory
          ([Path.join w.search.workingDir "vendor"].map (Path.join · (relative id)))) := by
      intro id
      have hjoin : Path.join "" (relative id) = relative id := by simp [Path.join]
      rw [earlyPaths_eq, earlyBases, hpath, Option.toList_some, List.singleton_append,
        List.map_cons, hjoin, firstDirectory_cons]
    have hnone : w.files.directory? (relative entry) = none := by
      simp [hentry, FileTree.directory?, FileTree.find, FileTree.place]
    rw [hcons, hnone, Option.none_or] at honly
    rw [if_pos ⟨hpath, hentry⟩, hcons, hcons entry, hnone, Option.none_or,
      firstDirectory_below hne hproper hlocation hbelow (by simpa using hvendor) honly]
  · rw [if_neg hempty, Option.none_or, earlyPaths_eq, earlyPaths_eq]
    refine firstDirectory_below hne hproper hlocation hbelow (fun base hbase h => ?_)
      (earlyPaths_eq w entry ▸ honly)
    obtain ⟨rfl, hentry⟩ := (Path.join_eq_empty (isAbsolute_relative entry)).mp h
    rcases List.mem_append.mp hbase with hbase | hbase
    · exact hempty ⟨by simpa using hbase, hentry⟩
    · rw [List.mem_singleton] at hbase
      exact absurd ((Path.join_eq_empty rfl).mp hbase.symm).2 (by decide)

theorem shadow?_self (hentry : entry ∈ w.search.entryPackages) : w.shadow? entry entry = none := by
  unfold shadow?
  rw [if_pos (Or.inr (Or.inl hentry)), Option.or_none]
  split
  · rename_i h
    simp [h.2, FileTree.directory?, FileTree.find, FileTree.place]
  · rfl

/-- **A package from a scan is found in its shadow, or else in the directory of the walk.** -/
theorem location?_below (hentry : entry ∈ w.search.entryPackages)
    (hentryLocation : w.location? entry = some location)
    (hlocation : w.files.find location = .ok (place, .dir es))
    (hnames : names ∈ Package.places [] (.dir es)) :
    w.location? (Package.idBelow entry names) =
      (w.shadow? entry (Package.idBelow entry names)).or (some (Path.ofSegments (place ++ names))) := by
  have hat := (FileTree.find_dir_iff.mp hlocation).2.2
  have hes : (Entry.dir es).isProper := FileTree.isProper_of_at? hat
  obtain ⟨⟨es', hbelow⟩, -⟩ := (Package.mem_places hes).mp hnames
  have hproper := Entry.isName_of_at? hes hbelow
  by_cases hne : names = []
  · subst hne
    show w.location? entry = (w.shadow? entry entry).or _
    obtain ⟨place', es₁, rfl, -, hplace⟩ := place_of_location? hentryLocation
    cases hplace.symm.trans hlocation
    rw [shadow?_self hentry, hentryLocation, List.append_nil, Option.none_or]
  · have hsub : w.files.root.at? (place ++ names) = some (.dir es') := by
      rw [Entry.at?_append, hat]
      exact hbelow
    have hfirst : (w.firstDirectory (w.earlyPaths entry)).or (w.firstDirectory (w.latePaths entry)) =
        some location := by
      rw [← hentryLocation, location?_of_entry (List.contains_iff_mem.mpr hentry)]
      exact List.findSome?_append.symm
    have hearly := firstDirectory_earlyPaths_below hne hproper hlocation hsub fun l hl => by
      rw [hl, Option.some_or, Option.some.injEq] at hfirst
      exact hfirst
    rw [location?_eq_or, hearly]
    unfold shadow?
    cases hE : w.firstDirectory (w.earlyPaths entry) with
    | some l =>
      -- `entry` is found early, and so is the package; no vendored package comes before it
      simp
    | none =>
      rw [hE, Option.none_or] at hfirst
      have hlate : w.firstDirectory (w.latePaths (Package.idBelow entry names)) =
          some (Path.ofSegments (place ++ names)) := by
        rw [latePaths_eq] at hfirst
        rw [latePaths_eq, firstDirectory_below hne hproper hlocation hsub
          (lateBases_join_ne w entry) (fun l hl => Option.some.inj (hl.symm.trans hfirst)), hfirst]
        rfl
      rw [hlate]
      simp

/-- What a scan of `entry` lists are the packages in the directory of `entry` and below it that are
not ignored. -/
theorem discovered_ok {ids : List String}
    (h : w.discovered entry = .ok ids) : ∃ location place es,
      w.location? entry = some location ∧ w.files.find location = .ok (place, .dir es) ∧
      ids = ((Package.places [] (.dir es)).map (Package.idBelow entry)).filter
        fun id => !w.isIgnored id := by
  unfold discovered at h
  cases hlocation : w.location? entry with
  | none =>
    rw [hlocation] at h
    cases h
  | some location =>
    rw [hlocation] at h
    obtain ⟨all, hscan, rfl⟩ := except_map_ok.mp h
    obtain ⟨place, es, -, -, hfind⟩ := place_of_location? hlocation
    refine ⟨location, place, es, rfl, hfind, ?_⟩
    obtain ⟨result, hwalk, rfl⟩ := except_map_ok.mp hscan
    unfold Package.walk at hwalk
    rw [hfind] at hwalk
    cases hwalk
    rfl

end

/-- **A package from a scan is looked up in its shadow, or else in the directory of the walk**,
whatever has been asked before.  The scan lists the packages at all places in the directory of `entry`
that are not ignored. -/
theorem tryResolve_discovered (w : Workspace) {entry : String}
    (hentry : entry ∈ w.search.entryPackages) (history : List Request) {ids : List String}
    (h : (w.discover entry (w.after history)).1 = .ok ids) :
    ∃ location place es, (w.resolve entry (w.after history)).1 = .ok location ∧
      w.files.find location = .ok (place, .dir es) ∧
      ids = ((Package.places [] (.dir es)).map (Package.idBelow entry)).filter
        (fun id => !w.isIgnored id) ∧
      ∀ names ∈ Package.places [] (.dir es), ∀ later : List Request,
        (w.tryResolve (Package.idBelow entry names) (w.after later)).1 =
          (w.shadow? entry (Package.idBelow entry names)).or
            (some (Path.ofSegments (place ++ names))) := by
  have hm := coherent_after w history
  obtain ⟨location, place, es, hlocation, hfind, hids⟩ :=
    discovered_ok ((gives_discover entry _ hm).1.symm.trans h)
  have hresolve := (gives_resolve (w := w) entry _ hm).1
  rw [hlocation] at hresolve
  refine ⟨location, place, es, hresolve, hfind, hids, fun names hnames later => ?_⟩
  rw [(gives_tryResolve _ _ (coherent_after w later)).1]
  exact location?_below hentry hlocation hfind hnames

/-! ### A kiosk and a depot -/

/-- A package with two below it, one of which it holds among its vendored packages too. -/
def kiosk : Workspace where
  search := { roots := ["/"], workingDir := "/", entryPackages := ["kiosk"] }
  files := { root := .dir [("src", .dir [("kiosk", .dir [("api", .dir []), ("cart", .dir []),
    ("vendor", .dir [("kiosk", .dir [("api", .dir [])])])])])] }

/-- All packages of a root, with the empty vendoring path. -/
def depot : Workspace where
  search :=
    { roots := ["/"], vendoringPath := some "", workingDir := "/work", entryPackages := [""] }
  files := { root := .dir [("src", .dir [("api", .dir [])]), ("work", .dir [("api", .dir [])])],
             here := ["work"] }

theorem discover_kiosk :
    (kiosk.discover "kiosk" {}).1 = .ok ["kiosk", "kiosk/api", "kiosk/cart"] :=
  except_of_toOption (by decide +kernel)

theorem resolve_kiosk : (kiosk.resolve "kiosk" {}).1 = .ok "/src/kiosk" :=
  except_of_toOption (by decide +kernel)

/-- One package below the kiosk has a shadow, and the other is looked up where it has been found. -/
theorem tryResolve_discovered_kiosk :
    "kiosk" ∈ kiosk.search.entryPackages ∧
    (kiosk.discover "kiosk" (kiosk.after [])).1 = .ok ["kiosk", "kiosk/api", "kiosk/cart"] ∧
    ∀ later : List Request,
      (kiosk.tryResolve "kiosk/api" (kiosk.after later)).1 = some "/src/kiosk/vendor/kiosk/api" ∧
      (kiosk.tryResolve "kiosk/cart" (kiosk.after later)).1 = some "/src/kiosk/cart" := by
  have hentry : "kiosk" ∈ kiosk.search.entryPackages := List.mem_singleton_self _
  refine ⟨hentry, discover_kiosk, fun later => ?_⟩
  obtain ⟨location, place, es, hlocation, hfind, -, hall⟩ :=
    tryResolve_discovered kiosk hentry [] discover_kiosk
  cases hlocation.symm.trans resolve_kiosk
  have hwalk : kiosk.files.find "/src/kiosk" = .ok (["src", "kiosk"], .dir [("api", .dir []),
      ("cart", .dir []), ("vendor", .dir [("kiosk", .dir [("api", .dir [])])])]) := by rfl
  cases hfind.symm.trans hwalk
  constructor
  · refine (hall ["api"] (by decide +kernel) later).trans ?_
    decide +kernel
  · refine (hall ["cart"] (by decide +kernel) later).trans ?_
    decide +kernel

/-- **A package that a scan has found can be looked up elsewhere**: in a vendored copy, or in the
current directory. -/
theorem discovered_elsewhere :
    ((kiosk.discover "kiosk" {}).1 = .ok ["kiosk", "kiosk/api", "kiosk/cart"] ∧
      (kiosk.resolve "kiosk" {}).1 = .ok "/src/kiosk" ∧
      kiosk.files.directory? "/src/kiosk/api" = some "/src/kiosk/api" ∧
      (kiosk.tryResolve "kiosk/api" {}).1 = some "/src/kiosk/vendor/kiosk/api") ∧
    ((depot.discover "" {}).1 = .ok ["", "/api"] ∧ (depot.resolve "" {}).1 = .ok "/src" ∧
      depot.files.directory? "/src/api" = some "/src/api" ∧
      (depot.tryResolve "/api" {}).1 = some "/work/api") :=
  ⟨⟨discover_kiosk, resolve_kiosk, by decide +kernel, by decide +kernel⟩,
    except_of_toOption (by decide +kernel), except_of_toOption (by decide +kernel),
    by decide +kernel, by decide +kernel⟩

end ApiScribe.Workspace
