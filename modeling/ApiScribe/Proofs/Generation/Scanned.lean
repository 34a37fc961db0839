import ApiScribe.Proofs.Generation.Policy
import ApiScribe.Proofs.Model.Growth

/-!
# The packages that are scanned

The scanned packages are a list that grows in the order of the entry packages; what stands in it does
not depend on that order.

* `Lists` — a scan of an entry package that is not ignored finds the package;
* `Listing` — packages that are listed, once each and with the right marks;
* `scanFrom_cases` — a scan adds all that the entry packages list, or ends where one is not found;
* `scanFrom_again` — a scan of entry packages that have been scanned adds nothing;
* `scan_collects` — what is scanned, after whatever calls and in whatever order.
-/

namespace ApiScribe.Generator

variable {g : Generator} {α β : Type}

/-! ### Parts of a run that scan nothing -/

/-- The scanned packages stay as they are. -/
def Unscanning (x : Run α) : Prop := ∀ p, (x p).2.scanned = p.scanned

theorem unscanning_pure (a : α) : Unscanning (pure a : Run α) := fun _ => rfl

theorem unscanning_throw (e : Error) : Unscanning (throw e : Run α) := fun _ => rfl

theorem unscanning_remembering (x : Session α) : Unscanning (Run.remembering x) := fun _ => rfl

theorem Unscanning.bind {x : Run α} {f : α → Run β} (hx : Unscanning x)
    (hf : ∀ a, Unscanning (f a)) : Unscanning (x >>= f) := by
  intro p
  have hp := hx p
  rw [run_bind]
  generalize x p = y at hp ⊢
  obtain ⟨e | a, q⟩ := y
  · exact hp
  · exact (hf a q).trans hp

theorem unscanning_readInfo (path : String) : Unscanning (g.readInfo path) := by
  unfold readInfo
  cases g.workspace.readFile path with
  | error e => exact unscanning_throw e
  | ok u => exact fun _ => rfl

theorem unscanning_record (package : ScannedPackage) (f : FunctionDecl)
    (result : Except Error Unit × Draft) : Unscanning (g.record package f result) := by
  unfold record
  split
  · split
    · exact unscanning_pure ()
    · intro p
      rw [run_change]
  · exact unscanning_pure ()
  · dsimp only
    split
    · exact unscanning_throw _
    · exact unscanning_pure ()

theorem unscanning_describeFunctions (package : ScannedPackage) (fs : List FunctionDecl) :
    Unscanning (g.describeFunctions package fs) := by
  induction fs with
  | nil => exact unscanning_pure ()
  | cons f fs ih =>
    unfold describeFunctions
    split
    · exact ((unscanning_remembering _).bind fun result =>
        unscanning_record package f result).bind fun _ => ih
    · exact ih

theorem unscanning_describe (package : ScannedPackage) : Unscanning (g.describe package) :=
  (unscanning_remembering _).bind fun units =>
    (unscanning_describeFunctions package (units.flatMap (·.functions))).bind fun _ _ => rfl

theorem scanned_mainApiFile (p : Progress) : (g.mainApiFile p).2.scanned = p.scanned := by
  unfold mainApiFile
  cases g.config.mainApiFile with
  | some path => rfl
  | none => cases g.config.apiPackages <;> rfl

/-! ### Listed packages -/

/-- The packages that are found for an entry package; none if it is ignored, or has no location. -/
def listedBy (g : Generator) (entry : String) : List String :=
  if g.workspace.isIgnored entry then [] else (g.workspace.discovered entry).toOption.getD []

/-- A package is found for one of the entry packages. -/
def Lists (g : Generator) (id : String) : Prop :=
  ∃ entry ∈ g.config.apiPackages, id ∈ g.listedBy entry

/-- What is found for an entry package that is not ignored: the packages of a walk from its location,
but for those that are ignored. -/
theorem mem_listedBy {m : Memory} (hm : Coherent g.workspace m) {entry id : String} :
    id ∈ g.listedBy entry ↔ ¬g.workspace.isIgnored entry ∧ ∃ location ids,
      (g.workspace.resolve entry m).1 = .ok location ∧
        Package.scan g.workspace.files location entry = .ok ids ∧
        id ∈ ids ∧ ¬g.workspace.isIgnored id := by
  have hresolve := (gives_resolve (w := g.workspace) entry m hm).1
  unfold listedBy Workspace.discovered
  rw [hresolve]
  by_cases hignored : g.workspace.isIgnored entry
  · simp [hignored]
  · rw [if_neg hignored]
    cases g.workspace.location? entry with
    | none => simp [Except.toOption]
    | some location =>
      dsimp only
      cases hscan : Package.scan g.workspace.files location entry with
      | error e => simp [Except.map, Except.toOption, hscan]
      | ok ids => simp [Except.map, Except.toOption, hscan, hignored]

theorem lists_iff {m : Memory} (hm : Coherent g.workspace m) {id : String} :
    g.Lists id ↔ ∃ entry ∈ g.config.apiPackages, ¬g.workspace.isIgnored entry ∧ ∃ location ids,
      (g.workspace.resolve entry m).1 = .ok location ∧
        Package.scan g.workspace.files location entry = .ok ids ∧
        id ∈ ids ∧ ¬g.workspace.isIgnored id := by
  unfold Lists
  simp only [mem_listedBy hm]

/-- Some packages that are found are listed once each, with marks on the entry packages. -/
structure Listing (g : Generator) (scanned : List ScannedPackage) : Prop where
  nodup : (scanned.map (·.id)).Nodup
  listed : ∀ package ∈ scanned, g.Lists package.id
  marked : ∀ package ∈ scanned, package.isEntry = g.config.apiPackages.contains package.id

theorem listing_nil : g.Listing [] where
  nodup := List.nodup_nil
  listed := fun _ h => nomatch h
  marked := fun _ h => nomatch h

theorem any_id_iff {scanned : List ScannedPackage} {id : String} :
    scanned.any (·.id == id) ↔ id ∈ scanned.map (·.id) := by
  simp [List.mem_map]

theorem addScanned_eq (scanned : List ScannedPackage) (id : String) :
    g.addScanned scanned id = if id ∈ scanned.map (·.id) then scanned
      else scanned ++ [{ id, isEntry := g.config.apiPackages.contains id }] := by
  unfold addScanned
  simp only [any_id_iff]

theorem ids_addScanned (scanned : List ScannedPackage) (id : String) :
    (g.addScanned scanned id).map (·.id) = pushNew (scanned.map (·.id)) id := by
  rw [addScanned_eq, pushNew]
  split
  · rfl
  · rw [List.map_append]
    rfl

theorem ids_foldl_addScanned (ids : List String) (scanned : List ScannedPackage) :
    (ids.foldl g.addScanned scanned).map (·.id) = ids.foldl pushNew (scanned.map (·.id)) := by
  induction ids generalizing scanned with
  | nil => rfl
  | cons id ids ih => rw [List.foldl_cons, ih, ids_addScanned, List.foldl_cons]

theorem foldl_addScanned_eq_self {ids : List String} {scanned : List ScannedPackage}
    (h : ids ⊆ scanned.map (·.id)) : ids.foldl g.addScanned scanned = scanned := by
  induction ids with
  | nil => rfl
  | cons id ids ih =>
    obtain ⟨hid, hids⟩ := List.cons_subset.mp h
    rw [List.foldl_cons, addScanned_eq, if_pos hid, ih hids]

theorem Listing.addScanned {scanned : List ScannedPackage} (h : g.Listing scanned) {id : String}
    (hid : g.Lists id) : g.Listing (g.addScanned scanned id) where
  nodup := by
    rw [ids_addScanned]
    exact nodup_pushNew h.nodup
  listed := fun package hp => (mem_addScanned hp).elim (h.listed package) fun heq => heq ▸ hid
  marked := by
    rw [addScanned_eq]
    split
    · exact h.marked
    · intro package hp
      rcases List.mem_append.mp hp with hp | hp
      · exact h.marked package hp
      · rw [List.mem_singleton.mp hp]

theorem Listing.foldl_addScanned {ids : List String} {scanned : List ScannedPackage}
    (h : g.Listing scanned) (hids : ∀ id ∈ ids, g.Lists id) :
    g.Listing (ids.foldl g.addScanned scanned) := by
  induction ids generalizing scanned with
  | nil => exact h
  | cons id ids ih =>
    obtain ⟨hid, hrest⟩ := List.forall_mem_cons.mp hids
    exact ih (h.addScanned hid) hrest

/-! ### Scanning -/

theorem scanFrom_cons {entry : String} {entries : List String} {p : Progress}
    (hp : Coherent g.workspace p.memory) :
    g.scanFrom (entry :: entries) p =
      if g.workspace.isIgnored entry then g.scanFrom entries p
      else
        let memory := (g.workspace.discover entry p.memory).2
        match g.workspace.discovered entry with
        | .error e => (.error e, { p with memory })
        | .ok ids => g.scanFrom entries
            { p with memory, scanned := ids.foldl g.addScanned p.scanned } := by
  have hanswer := (gives_discover (w := g.workspace) entry p.memory hp).1
  rw [scanFrom]
  split
  · rfl
  · rw [run_bind, run_remembering, hanswer]
    cases g.workspace.discovered entry with
    | error e => rfl
    | ok ids =>
      dsimp only
      rw [run_bind, run_modify]

/-- Each entry package that is not ignored is found, with the packages below it. -/
def AllFound (g : Generator) (entries : List String) : Prop :=
  ∀ entry ∈ entries, ¬g.workspace.isIgnored entry → ∃ ids, g.workspace.discovered entry = .ok ids

theorem allFound_cons {entry : String} {entries : List String} :
    g.AllFound (entry :: entries) ↔
      (¬g.workspace.isIgnored entry → ∃ ids, g.workspace.discovered entry = .ok ids) ∧
        g.AllFound entries := List.forall_mem_cons

/-- **A scan adds all that the entry packages list, or it ends at one that is not found**, with what
has been listed up to there. -/
theorem scanFrom_cases (entries : List String) {p : Progress} (hp : Coherent g.workspace p.memory) :
    (∃ memory, g.AllFound entries ∧ g.scanFrom entries p = (.ok (), { p with
      memory
      scanned := (entries.flatMap g.listedBy).foldl g.addScanned p.scanned })) ∨
    ∃ e memory ids, ¬g.AllFound entries ∧ ids ⊆ entries.flatMap g.listedBy ∧
      g.scanFrom entries p = (.error e, { p with
        memory
        scanned := ids.foldl g.addScanned p.scanned }) := by
  induction entries generalizing p with
  | nil => exact Or.inl ⟨p.memory, fun _ h => absurd h List.not_mem_nil, rfl⟩
  | cons entry entries ih =>
    have hm := (gives_discover (w := g.workspace) entry p.memory hp).2
    rw [scanFrom_cons hp, List.flatMap_cons, listedBy]
    split
    · rename_i hignored
      rcases ih hp with ⟨memory, hfound, hrun⟩ | ⟨e, memory, ids, hlost, hids, hrun⟩
      · exact Or.inl ⟨memory, allFound_cons.mpr ⟨absurd hignored, hfound⟩, hrun⟩
      · exact Or.inr ⟨e, memory, ids, fun hall => hlost (allFound_cons.mp hall).2, hids, hrun⟩
    · rename_i hignored
      dsimp only
      cases hdiscovered : g.workspace.discovered entry with
      | error e =>
        refine Or.inr ⟨e, _, [], fun hall => ?_, List.nil_subset _, rfl⟩
        obtain ⟨ids, hids⟩ := (allFound_cons.mp hall).1 hignored
        cases hdiscovered.symm.trans hids
      | ok ids =>
        dsimp only [Except.toOption, Option.getD]
        rcases ih (p := { p with
            memory := (g.workspace.discover entry p.memory).2
            scanned := ids.foldl g.addScanned p.scanned }) hm with
          ⟨memory, hfound, hrun⟩ | ⟨e, memory, more, hlost, hmore, hrun⟩
        · refine Or.inl ⟨memory, allFound_cons.mpr ⟨fun _ => ⟨ids, hdiscovered⟩, hfound⟩, ?_⟩
          rw [hrun, List.foldl_append]
        · refine Or.inr ⟨e, memory, ids ++ more, fun hall => hlost (allFound_cons.mp hall).2, ?_, ?_⟩
          · exact List.append_subset.mpr ⟨List.subset_append_left _ _,
              List.Subset.trans hmore (List.subset_append_right _ _)⟩
          · rw [hrun, List.foldl_append]

theorem scan_ok_iff {p : Progress} (hp : Coherent g.workspace p.memory) :
    (g.scan p).1 = .ok () ↔ g.AllFound g.config.apiPackages := by
  unfold scan
  rcases scanFrom_cases g.config.apiPackages hp with ⟨_, hfound, hrun⟩ | ⟨_, _, _, hlost, _, hrun⟩
  · rw [hrun]
    exact ⟨fun _ => hfound, fun _ => rfl⟩
  · rw [hrun]
    exact ⟨fun h => (nomatch h), fun h => absurd h hlost⟩

theorem lists_of_mem {ids : List String} (h : ids ⊆ g.config.apiPackages.flatMap g.listedBy) :
    ∀ id ∈ ids, g.Lists id := fun _ hid => List.mem_flatMap.mp (h hid)

theorem Listing.scan {p : Progress} (hp : Coherent g.workspace p.memory) (h : g.Listing p.scanned) :
    g.Listing (g.scan p).2.scanned := by
  unfold Generator.scan
  rcases scanFrom_cases g.config.apiPackages hp with ⟨_, -, hrun⟩ | ⟨_, _, ids, -, hids, hrun⟩
  · rw [hrun]
    exact h.foldl_addScanned (lists_of_mem (List.Subset.refl _))
  · rw [hrun]
    exact h.foldl_addScanned (lists_of_mem hids)

/-- **Whatever has been called, the scanned packages are listed**, once each and with their marks. -/
theorem listing_after (calls : List Call) : g.Listing (g.after calls).scanned := by
  induction calls using List.reverseRecOn with
  | nil => exact listing_nil
  | append_singleton calls c ih =>
    have hp := (evolves_after (g := g) calls).coherent
    rw [after, List.foldl_append]
    show g.Listing (g.call (g.after calls) c).scanned
    cases c with
    | mainApiFile => exact (scanned_mainApiFile (g := g) _).symm ▸ ih
    | readInfo path => exact (unscanning_readInfo (g := g) path _).symm ▸ ih
    | scan => exact ih.scan hp
    | registerTypes id => exact ih
    | describe package => exact (unscanning_describe (g := g) package _).symm ▸ ih

theorem mem_scanned_iff {calls : List Call} (h : (g.scan (g.after calls)).1 = .ok ())
    {package : ScannedPackage} : package ∈ (g.scan (g.after calls)).2.scanned ↔
      g.Lists package.id ∧ package.isEntry = g.config.apiPackages.contains package.id := by
  have hp := (evolves_after (g := g) calls).coherent
  have hlisting := (listing_after (g := g) calls).scan hp
  constructor
  · exact fun hmem => ⟨hlisting.listed package hmem, hlisting.marked package hmem⟩
  · rintro ⟨hlists, hmark⟩
    have hid : package.id ∈ (g.scan (g.after calls)).2.scanned.map (·.id) := by
      unfold scan at h ⊢
      rcases scanFrom_cases g.config.apiPackages hp with ⟨_, -, hrun⟩ | ⟨_, _, _, -, -, hrun⟩
      · rw [hrun, ids_foldl_addScanned, mem_foldl_pushNew]
        exact Or.inr (List.mem_flatMap.mpr hlists)
      · rw [hrun] at h
        cases h
    obtain ⟨other, hother, hsame⟩ := List.mem_map.mp hid
    have hmark' := hlisting.marked other hother
    rw [hsame, ← hmark] at hmark'
    obtain ⟨id, isEntry⟩ := package
    obtain ⟨id', isEntry'⟩ := other
    cases hsame
    cases hmark'
    exact hother

/-! ### Scanning again -/

theorem within_scanFrom (entries : List String) (p : Progress) :
    p.memory.Within (g.scanFrom entries p).2.memory := by
  induction entries generalizing p with
  | nil => exact p.memory.within_refl
  | cons entry entries ih =>
    rw [scanFrom]
    split
    · exact ih p
    · have hdiscover := growing_discover (w := g.workspace) entry p.memory
      rw [run_bind, run_remembering]
      cases (g.workspace.discover entry p.memory).1 with
      | error e => exact hdiscover
      | ok ids =>
        exact hdiscover.trans (ih
          { p with
            memory := (g.workspace.discover entry p.memory).2
            scanned := ids.foldl g.addScanned p.scanned })

/-- A scan that succeeds has looked up each entry package that is not ignored. -/
theorem located_scanFrom {entries : List String} {p : Progress}
    (h : (g.scanFrom entries p).1 = .ok ()) : ∀ entry ∈ entries, ¬g.workspace.isIgnored entry →
      (g.scanFrom entries p).2.memory.locations.contains entry := by
  induction entries generalizing p with
  | nil => exact fun _ h => nomatch h
  | cons entry entries ih =>
    rw [scanFrom] at h ⊢
    split at h
    · rename_i hignored
      rw [if_pos hignored]
      intro entry' hentry' hnot
      rcases List.mem_cons.mp hentry' with rfl | hentry'
      · exact absurd hignored hnot
      · exact ih h entry' hentry' hnot
    · rename_i hignored
      rw [if_neg hignored]
      rw [run_bind, run_remembering] at h ⊢
      have hlocated : (g.workspace.discover entry p.memory).2.locations.contains entry := by
        rw [discover_memory]
        exact contains_tryResolve g.workspace entry p.memory
      cases hanswer : (g.workspace.discover entry p.memory).1 with
      | error e =>
        rw [hanswer] at h
        cases h
      | ok ids =>
        rw [hanswer] at h
        dsimp only at h ⊢
        rw [run_bind, run_modify] at h ⊢
        intro entry' hentry' hnot
        rcases List.mem_cons.mp hentry' with rfl | hentry'
        · obtain ⟨found, hfound⟩ := KeyMap.contains_iff.mp hlocated
          exact KeyMap.contains_iff.mpr ⟨found, (within_scanFrom entries _).locations _ _ hfound⟩
        · exact ih h entry' hentry' hnot

/-- **A scan of packages that have been scanned changes nothing.** -/
theorem scanFrom_again {entries : List String} {p : Progress} (hp : Coherent g.workspace p.memory)
    (hfound : g.AllFound entries) (hlisted : entries.flatMap g.listedBy ⊆ p.scanned.map (·.id))
    (hlocated : ∀ entry ∈ entries, ¬g.workspace.isIgnored entry →
      p.memory.locations.contains entry) : g.scanFrom entries p = (.ok (), p) := by
  induction entries with
  | nil => rfl
  | cons entry entries ih =>
    rw [List.flatMap_cons, List.append_subset] at hlisted
    have hrest := ih (fun e he => hfound e (List.mem_cons_of_mem _ he)) hlisted.2
      fun e he => hlocated e (List.mem_cons_of_mem _ he)
    rw [scanFrom_cons hp]
    split
    · exact hrest
    · rename_i hignored
      obtain ⟨ids, hids⟩ := hfound entry List.mem_cons_self hignored
      have hknown : ids ⊆ p.scanned.map (·.id) := by
        have hby : g.listedBy entry = ids := by
          unfold listedBy
          rw [if_neg hignored, hids]
          rfl
        exact hby ▸ hlisted.1
      rw [hids, discover_memory, tryResolve_known (hlocated entry List.mem_cons_self hignored)]
      dsimp only
      rw [foldl_addScanned_eq_self hknown]
      exact hrest

theorem scan_again {calls : List Call} (h : (g.scan (g.after calls)).1 = .ok ()) :
    g.scan (g.scan (g.after calls)).2 = (.ok (), (g.scan (g.after calls)).2) := by
  have hp := (evolves_after (g := g) calls).coherent
  have hproceeds : g.Proceeds (fun _ => True) g.scan := proceeds_scan
  refine scanFrom_again (hproceeds _ hp).coherent
    ((scan_ok_iff hp).mp h) (fun id hid => ?_) (located_scanFrom h)
  exact List.mem_map.mpr ⟨{ id, isEntry := g.config.apiPackages.contains id },
    (mem_scanned_iff h).mpr ⟨List.mem_flatMap.mp hid, rfl⟩, rfl⟩

/-! ### The order of the entry packages -/

/-- The run for other entry packages. -/
def withEntries (g : Generator) (packages : List String) : Generator where
  config := { g.config with apiPackages := packages }
  workspace := { g.workspace with
    search := { g.workspace.search with entryPackages := packages } }
  controller := g.controller

theorem ofConfig_withEntries {config : Config} {files : FileTree} (h : ofConfig config files = .ok g)
    (packages : List String) :
    ofConfig { config with apiPackages := packages } files = .ok (g.withEntries packages) := by
  unfold ofConfig at h ⊢
  obtain ⟨ignore, hignore, h⟩ := except_bind_ok.mp h
  refine except_bind_ok.mpr ⟨ignore, hignore, ?_⟩
  dsimp only at h ⊢
  split at h
  · obtain ⟨controller, hcontroller, h⟩ := except_bind_ok.mp h
    cases h
    exact except_bind_ok.mpr ⟨controller, hcontroller, rfl⟩
  · cases h
    rfl

/-- An entry package lists the same whatever else is scanned. -/
theorem discovered_withEntries {packages : List String} {entry : String}
    (h : entry ∈ g.workspace.search.entryPackages) (h' : entry ∈ packages) :
    (g.withEntries packages).workspace.discovered entry = g.workspace.discovered entry := by
  have hlocation : (g.withEntries packages).workspace.location? entry =
      g.workspace.location? entry :=
    (location?_of_entry (List.contains_iff_mem.mpr h')).trans
      (location?_of_entry (List.contains_iff_mem.mpr h)).symm
  unfold Workspace.discovered
  rw [hlocation]
  rfl

section

variable {packages : List String} (hentries : g.workspace.search.entryPackages = g.config.apiPackages)
  (hsame : packages.Perm g.config.apiPackages)

include hentries hsame

theorem allFound_withEntries :
    (g.withEntries packages).AllFound packages ↔ g.AllFound g.config.apiPackages := by
  have hmem : ∀ entry, entry ∈ packages ↔ entry ∈ g.config.apiPackages := fun _ => hsame.mem_iff
  constructor
  · intro h entry hentry hnot
    rw [← discovered_withEntries (hentries ▸ hentry) ((hmem entry).mpr hentry)]
    exact h entry ((hmem entry).mpr hentry) hnot
  · intro h entry hentry hnot
    rw [discovered_withEntries (hentries ▸ (hmem entry).mp hentry) hentry]
    exact h entry ((hmem entry).mp hentry) hnot

theorem lists_withEntries {id : String} : (g.withEntries packages).Lists id ↔ g.Lists id := by
  have hmem : ∀ entry, entry ∈ packages ↔ entry ∈ g.config.apiPackages := fun _ => hsame.mem_iff
  have hlisted : ∀ entry ∈ packages,
      (g.withEntries packages).listedBy entry = g.listedBy entry := by
    intro entry hentry
    unfold listedBy
    rw [discovered_withEntries (hentries ▸ (hmem entry).mp hentry) hentry]
    rfl
  constructor
  · rintro ⟨entry, hentry, hid⟩
    exact ⟨entry, (hmem entry).mp hentry, hlisted entry hentry ▸ hid⟩
  · rintro ⟨entry, hentry, hid⟩
    exact ⟨entry, (hmem entry).mpr hentry, (hlisted entry ((hmem entry).mpr hentry)).symm ▸ hid⟩

theorem scan_withEntries (calls calls' : List Call) :
    let g' := g.withEntries packages
    ((g'.scan (g'.after calls')).1 = .ok () ↔ (g.scan (g.after calls)).1 = .ok ()) ∧
      ((g.scan (g.after calls)).1 = .ok () → ∀ package,
        package ∈ (g'.scan (g'.after calls')).2.scanned ↔
          package ∈ (g.scan (g.after calls)).2.scanned) := by
  intro g'
  have hok : (g'.scan (g'.after calls')).1 = .ok () ↔ (g.scan (g.after calls)).1 = .ok () := by
    rw [scan_ok_iff (evolves_after calls').coherent, scan_ok_iff (evolves_after calls).coherent]
    exact allFound_withEntries hentries hsame
  refine ⟨hok, fun h package => ?_⟩
  have hmark : packages.contains package.id = g.config.apiPackages.contains package.id :=
    hsame.contains_eq
  rw [mem_scanned_iff (hok.mpr h), mem_scanned_iff h, lists_withEntries hentries hsame, ← hmark]
  rfl

end

/-- **What is scanned is a set.**  After a successful scan, whatever has been called before, the ids
are distinct, none is ignored, they are those of all packages that are found for entry packages, but
for the ignored ones, and the entry packages are marked among them.  One more scan changes nothing.
For the same entry packages in another order a scan succeeds just as well, and what is scanned is the
same. -/
theorem scan_collects {config : Config} {files : FileTree} (hg : ofConfig config files = .ok g)
    (calls : List Call) :
    let p := g.after calls
    ((g.scan p).1 = .ok () →
      let scanned := (g.scan p).2.scanned
      (scanned.map (·.id)).Nodup ∧
      (∀ package ∈ scanned, ¬g.workspace.isIgnored package.id) ∧
      (∀ id, id ∈ scanned.map (·.id) ↔ ∃ entry ∈ config.apiPackages,
        ¬g.workspace.isIgnored entry ∧ ∃ location ids,
          (g.workspace.resolve entry p.memory).1 = .ok location ∧
            Package.scan files location entry = .ok ids ∧ id ∈ ids ∧ ¬g.workspace.isIgnored id) ∧
      (∀ package ∈ scanned, package.isEntry ↔ package.id ∈ config.apiPackages) ∧
      g.scan (g.scan p).2 = (.ok (), (g.scan p).2)) ∧
    ∀ packages, packages.Perm config.apiPackages →
      ∃ g', ofConfig { config with apiPackages := packages } files = .ok g' ∧
        ∀ calls', let p' := g'.after calls'
          ((g'.scan p').1 = .ok () ↔ (g.scan p).1 = .ok ()) ∧
          ((g.scan p).1 = .ok () →
            ∀ package, package ∈ (g'.scan p').2.scanned ↔ package ∈ (g.scan p).2.scanned) := by
  obtain ⟨hconfig, hfiles, hentries⟩ := ofConfig_ok hg
  have hp := (evolves_after (g := g) calls).coherent
  intro p
  constructor
  · intro hok scanned
    have hlisting := (listing_after (g := g) calls).scan hp
    refine ⟨hlisting.nodup, fun package hmem => ?_, fun id => ?_, fun package hmem => ?_,
      scan_again hok⟩
    · obtain ⟨_, _, _, _, _, _, _, _, hnot⟩ := (lists_iff hp).mp (hlisting.listed package hmem)
      exact hnot
    · have hlists : g.Lists id ↔ _ := lists_iff hp
      rw [hconfig, hfiles] at hlists
      rw [← hlists, List.mem_map]
      constructor
      · rintro ⟨package, hmem, rfl⟩
        exact hlisting.listed package hmem
      · intro hid
        exact ⟨{ id, isEntry := g.config.apiPackages.contains id },
          (mem_scanned_iff hok).mpr ⟨hid, rfl⟩, rfl⟩
    · rw [hlisting.marked package hmem, hconfig, List.contains_iff_mem]
  · intro packages hperm
    have hentries' := hentries.trans (congrArg Config.apiPackages hconfig).symm
    exact ⟨g.withEntries packages, ofConfig_withEntries hg packages,
      fun calls' => scan_withEntries hentries' (hconfig ▸ hperm) calls calls'⟩

/-! ### A plaza -/

def plazaFiles : FileTree where
  root := .dir [("src", .dir [
    ("fair", .dir []),
    ("plaza", .dir [("api", .dir [("v1", .dir [])]), ("old", .dir [])])])]

/-- Entry packages one of which is below another and given twice, and one of which is ignored. -/
def plazaConfig : Config where
  apiPackages := ["plaza/api", "fair", "plaza", "plaza/api"]
  ignore := "^fair$|/old$"
  searchPath := ["/"]

def plaza : Generator := (ofConfig plazaConfig plazaFiles).toOption.getD {}

theorem ofConfig_plaza : ofConfig plazaConfig plazaFiles = .ok plaza := by
  have hsome : (ofConfig plazaConfig plazaFiles).toOption.isSome := by decide +kernel
  exact ofConfig_getD hsome

theorem scan_plaza : (plaza.scan (plaza.after [])).1 = .ok () ∧
    (plaza.scan (plaza.after [])).2.scanned = [{ id := "plaza/api", isEntry := true },
      { id := "plaza/api/v1", isEntry := false }, { id := "plaza", isEntry := true }] :=
  ⟨except_of_toOption (by decide +kernel), by decide +kernel⟩

/-- In the reverse order the same packages are scanned. -/
theorem scan_collects_plaza :
    let scanned := (plaza.scan (plaza.after [])).2.scanned
    ofConfig plazaConfig plazaFiles = .ok plaza ∧ (plaza.scan (plaza.after [])).1 = .ok () ∧
    plazaConfig.apiPackages.reverse.Perm plazaConfig.apiPackages ∧
    (scanned.map (·.id)).Nodup ∧ scanned.length = 3 ∧
    plaza.scan (plaza.scan (plaza.after [])).2 = (.ok (), (plaza.scan (plaza.after [])).2) ∧
    ∃ g', ofConfig { plazaConfig with apiPackages := plazaConfig.apiPackages.reverse } plazaFiles =
        .ok g' ∧
      (g'.scan (g'.after [.scan])).1 = .ok () ∧
      ∀ package, package ∈ (g'.scan (g'.after [.scan])).2.scanned ↔ package ∈ scanned := by
  intro scanned
  obtain ⟨hok, hscanned⟩ := scan_plaza
  have hperm := List.reverse_perm plazaConfig.apiPackages
  obtain ⟨hset, horder⟩ := scan_collects ofConfig_plaza []
  obtain ⟨hnodup, -, -, -, hagain⟩ := hset hok
  obtain ⟨g', hg', hsame⟩ := horder _ hperm
  obtain ⟨hiff, hmem⟩ := hsame [.scan]
  exact ⟨ofConfig_plaza, hok, hperm, hnodup, congrArg List.length hscanned, hagain, g', hg',
    hiff.mpr hok, hmem hok⟩

end ApiScribe.Generator
