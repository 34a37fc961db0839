import ApiScribe.Model.Find
import ApiScribe.Proofs.Package.Answer
import ApiScribe.Proofs.Package.Directory

/-!
# What is remembered agrees with the files

* `Sound w m` — each answer that `m` holds is the one that the files of `w` give;
* `Coherent w m` — besides, a location whose types are registered has its import table recorded;
* `Workspace.plain` — what packages declare and import, read off the files with no memory at all.

Every operation on a coherent memory leaves it coherent, and looking up a declaration or the packages
of an alias answers as `plain` does (`gives_lookup`, `gives_candidates`), whatever has been asked
before.
-/

namespace ApiScribe

namespace Workspace

variable (w : Workspace)

/-- The location of an entry package, read off the files. -/
def entryLocation? (id : String) : Option String :=
  w.firstDirectory (w.earlyPaths id ++ w.latePaths id)

/-- The directory that the entry packages hold for a package among their vendored ones. -/
def vendored? (rel : String) : Option String :=
  w.search.entryPackages.findSome? fun entry =>
    (w.entryLocation? entry).bind fun location =>
      w.files.directory? (Path.join (Path.join location "vendor") rel)

/-- The location of a package, read off the files. -/
def location? (id : String) : Option String :=
  if w.search.entryPackages.contains id then w.entryLocation? id
  else
    (w.firstDirectory (w.earlyPaths id)).or
      ((if w.search.disableVendoring then none else w.vendored? (relative id)).or
        (w.firstDirectory (w.latePaths id)))

/-- What packages declare and import, read off the files. -/
def plain : Packages (Except Error) where
  declared := fun package name =>
    match w.location? package with
    | none => .ok none
    | some location => (w.readPackage location).map fun us => (typesOf us).get? name
  imported := fun package name =>
    match w.location? package with
    | none => .error (.packageNotFound package)
    | some location => (w.readPackage location).map fun us => (w.tableOf us).get? name

end Workspace

/-- Each answer that is remembered is the one that the files give. -/
structure Sound (w : Workspace) (m : Memory) : Prop where
  locations : ∀ {id found}, m.locations.get? id = some found → found = w.location? id
  units : ∀ {key us}, m.units.get? key = some us → w.ReadsAs key us
  imports : ∀ {key table}, m.imports.get? key = some table →
    ∃ us, w.ReadsAs key us ∧ table = w.tableOf us
  types : ∀ {key types}, m.types.get? key = some types →
    ∃ us, w.ReadsAs key us ∧ types = Workspace.typesOf us

/-- What is remembered is sound, and of what is registered the imports are known too. -/
structure Coherent (w : Workspace) (m : Memory) : Prop extends Sound w m where
  recorded : ∀ {key}, m.types.contains key → m.imports.contains key

theorem coherent_empty (w : Workspace) : Coherent w {} where
  locations := fun h => by cases h
  units := fun h => by cases h
  imports := fun h => by cases h
  types := fun h => by cases h
  recorded := fun h => by cases h

variable {w : Workspace}

/-! ### Locations -/

theorem Coherent.insert_location {m : Memory} (h : Coherent w m) (id : String) :
    Coherent w { m with locations := m.locations.insert id (w.location? id) } where
  locations := KeyMap.of_get?_insert h.locations rfl
  units := h.units
  imports := h.imports
  types := h.types
  recorded := h.recorded

theorem remember_apply (id : String) (search : StateM Memory (Option String)) (m : Memory) :
    Workspace.remember id search m = match m.locations.get? id with
      | some found => (found, m)
      | none => ((search m).1,
          { (search m).2 with locations := (search m).2.locations.insert id (search m).1 }) := by
  have h : Workspace.remember id search m = (match m.locations.get? id with
      | some found => pure found
      | none => search >>= fun found =>
          (modify fun m => { m with locations := m.locations.insert id found }) >>= fun _ =>
            pure found : StateM Memory (Option String)) m := rfl
  rw [h]
  cases m.locations.get? id <;> rfl

theorem gives_remember {id : String} {search : StateM Memory (Option String)}
    (h : Gives (Coherent w) search (w.location? id)) :
    Gives (Coherent w) (Workspace.remember id search) (w.location? id) := by
  intro m hm
  rw [remember_apply]
  split
  · rename_i found hfound
    exact ⟨hm.locations hfound, hm⟩
  · obtain ⟨hr, hc⟩ := h m hm
    refine ⟨hr, ?_⟩
    rw [hr]
    exact hc.insert_location id

theorem gives_value {α : Type} (I : Memory → Prop) (a : α) : Gives I (pure a : StateM Memory α) a :=
  fun _ hm => ⟨rfl, hm⟩

theorem location?_of_entry {id : String} (h : w.search.entryPackages.contains id) :
    w.location? id = w.entryLocation? id := by
  unfold Workspace.location?
  rw [if_pos h]

/-- Where a package is found: early, among the vendored packages, or at last. -/
theorem Workspace.location?_eq_or (w : Workspace) (id : String) :
    w.location? id = (w.firstDirectory (w.earlyPaths id)).or
      ((if w.search.disableVendoring ∨ id ∈ w.search.entryPackages then none
        else w.vendored? (relative id)).or (w.firstDirectory (w.latePaths id))) := by
  by_cases hid : id ∈ w.search.entryPackages
  · rw [location?_of_entry (List.contains_iff_mem.mpr hid), entryLocation?, if_pos (Or.inr hid)]
    exact List.findSome?_append
  · rw [location?, if_neg fun h => hid (List.contains_iff_mem.mp h)]
    simp [hid]

theorem gives_tryResolveEntry {id : String} (h : w.search.entryPackages.contains id) :
    Gives (Coherent w) (w.tryResolveEntry id) (w.location? id) := by
  refine gives_remember ?_
  rw [location?_of_entry h]
  exact gives_value _ _

theorem gives_vendored (rel : String) {entries : List String}
    (h : ∀ entry ∈ entries, w.search.entryPackages.contains entry) :
    Gives (Coherent w) (w.vendored rel entries)
      (entries.findSome? fun entry => (w.entryLocation? entry).bind fun location =>
        w.files.directory? (Path.join (Path.join location "vendor") rel)) := by
  induction entries with
  | nil => exact gives_value _ _
  | cons entry entries ih =>
    have hentry := h entry List.mem_cons_self
    have hrest := ih fun e he => h e (List.mem_cons_of_mem _ he)
    unfold Workspace.vendored
    refine (gives_tryResolveEntry hentry).stateM_bind ?_
    rw [location?_of_entry hentry, List.findSome?_cons]
    cases w.entryLocation? entry with
    | none => exact hrest
    | some location =>
      rw [Option.bind_some]
      dsimp only
      cases w.files.directory? (Path.join (Path.join location "vendor") rel) with
      | none => exact hrest
      | some found => exact gives_value _ _

/-- **The location of a package does not depend on what was asked before.** -/
theorem gives_tryResolve (id : String) :
    Gives (Coherent w) (w.tryResolve id) (w.location? id) := by
  unfold Workspace.tryResolve
  split
  · rename_i h
    exact gives_tryResolveEntry h
  · rename_i h
    refine gives_remember ?_
    unfold Workspace.location?
    rw [if_neg h]
    cases w.firstDirectory (w.earlyPaths id) with
    | some found => exact gives_value _ _
    | none =>
      rw [Option.none_or]
      dsimp only
      split
      · refine (gives_value _ none).stateM_bind ?_
        exact gives_value _ _
      · refine (gives_vendored _ fun e he => ?_).stateM_bind ?_
        · simpa using he
        · unfold Workspace.vendored?
          split
          · rename_i found hfound
            rw [hfound]
            exact gives_value _ _
          · rename_i hfound
            rw [hfound]
            exact gives_value _ _

theorem gives_resolve (id : String) :
    Gives (Coherent w) (w.resolve id) (match w.location? id with
      | some location => .ok location
      | none => .error (.packageNotFound id)) := by
  unfold Workspace.resolve
  have h : Gives (Coherent w) (w.tryResolve id : Session (Option String)) (.ok (w.location? id)) :=
    (gives_tryResolve id).lift
  refine h.ok_bind ?_
  cases w.location? id with
  | some location => exact gives_pure location
  | none => exact gives_throw _

/-- The package with the given id and those below it that are not ignored, read off the files. -/
def Workspace.discovered (w : Workspace) (id : String) : Except Error (List String) :=
  match w.location? id with
  | none => .error (.packageNotFound id)
  | some location =>
    (Package.scan w.files location id).map fun ids => ids.filter fun id => !w.isIgnored id

theorem gives_discover (id : String) :
    Gives (Coherent w) (w.discover id) (w.discovered id) := by
  have hresolve := gives_resolve (w := w) id
  unfold Workspace.discover Workspace.discovered
  cases hlocation : w.location? id with
  | none =>
    rw [hlocation] at hresolve
    exact hresolve.error_bind
  | some location =>
    rw [hlocation] at hresolve
    refine hresolve.ok_bind ?_
    dsimp only
    cases Package.scan w.files location id with
    | ok ids => exact gives_pure _
    | error e => exact gives_throw e

/-! ### Sources -/

theorem loadPackage_apply (path : String) (m : Memory) :
    w.loadPackage path m = match m.units.get? (Path.normal path) with
      | some us => (.ok us, m)
      | none => match w.readPackage path with
        | .error e => (.error e, m)
        | .ok us => (.ok us, { m with units := m.units.insert (Path.normal path) us }) := by
  have h : w.loadPackage path m = (match m.units.get? (Path.normal path) with
      | some us => pure us
      | none => match w.readPackage path with
        | .error e => throw e
        | .ok us => modify (fun m => { m with units := m.units.insert (Path.normal path) us }) >>=
            fun _ => pure us : Session (List SourceUnit)) m := rfl
  rw [h]
  cases m.units.get? (Path.normal path) with
  | some us => rfl
  | none => cases w.readPackage path <;> rfl

theorem Sound.insert_units {m : Memory} (h : Sound w m) {key : String} {us : List SourceUnit}
    (hus : w.ReadsAs key us) : Sound w { m with units := m.units.insert key us } where
  locations := h.locations
  units := KeyMap.of_get?_insert h.units hus
  imports := h.imports
  types := h.types

/-- Loading fails as reading does, or gives the sources of the directory under some spelling. -/
theorem Sound.loadPackage {m : Memory} (h : Sound w m) (path : String) :
    (∃ e, w.readPackage path = .error e ∧ w.loadPackage path m = (.error e, m)) ∨
      ∃ us units, w.ReadsAs (Path.normal path) us ∧
        w.loadPackage path m = (.ok us, { m with units }) ∧ Sound w { m with units } := by
  rw [loadPackage_apply]
  cases hget : m.units.get? (Path.normal path) with
  | some us => exact Or.inr ⟨us, m.units, h.units hget, rfl, h⟩
  | none =>
    cases hread : w.readPackage path with
    | error e => exact Or.inl ⟨e, rfl, rfl⟩
    | ok us =>
      have hus := Workspace.readsAs_of_readPackage hread
      exact Or.inr ⟨us, _, hus, rfl, h.insert_units hus⟩

/-! ### Imports -/

theorem recordImports_apply (path : String) (m : Memory) :
    w.recordImports path m = if m.imports.contains (Path.normal path) then (.ok [], m)
      else match w.loadPackage path m with
        | (.error e, m') => (.error e, m')
        | (.ok us, m') => (.ok (((w.importsOf us).map (·.path)).foldl pushNew []),
            { m' with imports := m'.imports.insert (Path.normal path) (w.tableOf us) }) := by
  have h : w.recordImports path m = (if m.imports.contains (Path.normal path) then pure []
      else w.loadPackage path >>= fun us =>
        (modify fun m => { m with
          imports := m.imports.insert (Path.normal path) (w.tableOf us) }) >>= fun _ =>
        pure (((w.importsOf us).map (·.path)).foldl pushNew []) : Session (List String)) m := by
    unfold Workspace.recordImports
    show (ite _ _ _ : Session (List String)) m = _
    split <;> rfl
  rw [h]
  split
  · rfl
  · rw [session_bind]
    generalize w.loadPackage path m = y
    obtain ⟨r, m'⟩ := y
    cases r <;> rfl

theorem Sound.insert_imports {m : Memory} (h : Sound w m) {key : String} {us : List SourceUnit}
    (hus : w.ReadsAs key us) :
    Sound w { m with imports := m.imports.insert key (w.tableOf us) } where
  locations := h.locations
  units := h.units
  imports := KeyMap.of_get?_insert h.imports ⟨us, hus, rfl⟩
  types := h.types

/-- Recording the imports of a directory fails as reading does, or leaves its table recorded. -/
theorem Sound.recordImports {m : Memory} (h : Sound w m) (path : String) :
    (∃ e, w.readPackage path = .error e ∧ w.recordImports path m = (.error e, m)) ∨
      ∃ ids units imports, w.recordImports path m = (.ok ids, { m with units, imports }) ∧
        Sound w { m with units, imports } ∧ imports.contains (Path.normal path) ∧
        ∀ key, m.imports.contains key → imports.contains key := by
  rw [recordImports_apply]
  split
  · rename_i hc
    exact Or.inr ⟨[], m.units, m.imports, rfl, h, hc, fun _ hk => hk⟩
  · rcases h.loadPackage path with ⟨e, hread, hload⟩ | ⟨us, units, hus, hload, hsound⟩
    · exact Or.inl ⟨e, hread, by rw [hload]⟩
    · rw [hload]
      exact Or.inr ⟨_, units, _, rfl, hsound.insert_imports hus, KeyMap.contains_insert (Or.inl rfl),
        fun key hk => KeyMap.contains_insert (Or.inr hk)⟩

/-! ### Types -/

/-- The types and the imports of a location are remembered as some sources tell them. -/
def Memory.Knows (w : Workspace) (m : Memory) (location : String) (us : List SourceUnit) : Prop :=
  m.types.get? (Path.normal location) = some (Workspace.typesOf us) ∧
    m.imports.get? (Path.normal location) = some (w.tableOf us)

/-- What a coherent memory knows of a location is what its files tell. -/
theorem Coherent.knows {m : Memory} (h : Coherent w m) {location : String}
    (hc : m.types.contains (Path.normal location)) :
    ∃ us, w.readPackage location = .ok us ∧ m.Knows w location us := by
  obtain ⟨types, htypes⟩ := KeyMap.contains_iff.mp hc
  obtain ⟨table, htable⟩ := KeyMap.contains_iff.mp (h.recorded hc)
  obtain ⟨us₁, hus₁, rfl⟩ := h.types htypes
  obtain ⟨us₂, hus₂, rfl⟩ := h.imports htable
  obtain ⟨us, hread, heq⟩ := hus₁.readPackage
  have hus := Workspace.readsAs_of_readPackage hread
  exact ⟨us, hread, by rw [htypes, Workspace.typesOf_congr heq],
    by rw [htable, Workspace.tableOf_congr (hus.unplaced_eq hus₂)]⟩

theorem Sound.insert_types {m : Memory} (h : Sound w m) {key : String} {us : List SourceUnit}
    (hus : w.ReadsAs key us) :
    Sound w { m with types := m.types.insert key (Workspace.typesOf us) } where
  locations := h.locations
  units := h.units
  imports := h.imports
  types := KeyMap.of_get?_insert h.types ⟨us, hus, rfl⟩

theorem register_apply (id : String) (m : Memory) :
    w.register id m = match w.resolve id m with
      | (.error e, m') => (.error e, m')
      | (.ok location, m') =>
        if m'.types.contains (Path.normal location) then (.ok [], m')
        else match w.loadPackage location m' with
          | (.error e, m'') => (.error e, m'')
          | (.ok us, m'') => w.recordImports location { m'' with
              types := m''.types.insert (Path.normal location) (Workspace.typesOf us) } := by
  have h : w.register id m = (w.resolve id >>= fun location => fun m' =>
      if m'.types.contains (Path.normal location) then (.ok [], m')
      else (w.loadPackage location >>= fun us => fun m'' => w.recordImports location { m'' with
        types := m''.types.insert (Path.normal location) (Workspace.typesOf us) } :
          Session (List String)) m' : Session (List String)) m := by
    unfold Workspace.register
    rw [session_bind, session_bind]
    split
    · rename_i location m' _
      show (ite _ _ _ : Session (List String)) m' = _
      split <;> rfl
    · rfl
  rw [h, session_bind]
  generalize w.resolve id m = y
  obtain ⟨r, m'⟩ := y
  cases r with
  | error e => rfl
  | ok location =>
    dsimp only
    split
    · rfl
    · rw [session_bind]
      generalize w.loadPackage location m' = y
      obtain ⟨r, m''⟩ := y
      cases r <;> rfl

theorem Coherent.register_none {m : Memory} (h : Coherent w m) {id : String}
    (hid : w.location? id = none) :
    ∃ m', w.register id m = (.error (.packageNotFound id), m') ∧ Coherent w m' := by
  obtain ⟨hr, hc⟩ := gives_resolve id m h
  rw [hid] at hr
  rw [register_apply]
  generalize w.resolve id m = y at hr hc ⊢
  obtain ⟨r, m'⟩ := y
  cases hr
  exact ⟨m', rfl, hc⟩

/-- Registering a package fails as reading its location does, or leaves the location known. -/
theorem Coherent.register_some {m : Memory} (h : Coherent w m) {id location : String}
    (hid : w.location? id = some location) :
    (∃ e m', w.readPackage location = .error e ∧ w.register id m = (.error e, m') ∧
      Coherent w m') ∨
    ∃ us ids m', w.readPackage location = .ok us ∧ w.register id m = (.ok ids, m') ∧
      Coherent w m' ∧ m'.Knows w location us := by
  obtain ⟨hr, hc⟩ := gives_resolve id m h
  rw [hid] at hr
  rw [register_apply]
  generalize w.resolve id m = y at hr hc ⊢
  obtain ⟨r, m'⟩ := y
  cases hr
  dsimp only at hc ⊢
  split
  · rename_i hreg
    obtain ⟨us, hread, hknows⟩ := hc.knows hreg
    exact Or.inr ⟨us, [], m', hread, rfl, hc, hknows⟩
  · rcases hc.toSound.loadPackage location with ⟨e, hread, hload⟩ | ⟨us, units, hus, hload, hsound⟩
    · rw [hload]
      exact Or.inl ⟨e, m', hread, rfl, hc⟩
    · rw [hload]
      dsimp only
      -- the sources are there, so recording their imports cannot fail
      rcases (hsound.insert_types hus).recordImports location with
        ⟨e, hread, -⟩ | ⟨ids, units', imports, hrec, hsound', himports, hkept⟩
      · obtain ⟨us', hread', -⟩ := hus.readPackage
        rw [hread] at hread'
        cases hread'
      · have hfinal : Coherent w
            { m' with
              types := m'.types.insert (Path.normal location) (Workspace.typesOf us)
              units := units'
              imports := imports } := by
          refine ⟨hsound', fun {key} hkey => ?_⟩
          obtain ⟨types, htypes⟩ := KeyMap.contains_iff.mp hkey
          rw [KeyMap.get?_insert] at htypes
          split at htypes
          · rename_i hk
            rw [hk]
            exact himports
          · exact hkept key (hc.recorded (KeyMap.contains_iff.mpr ⟨types, htypes⟩))
        obtain ⟨us', hread, hknows⟩ := hfinal.knows (KeyMap.contains_insert (Or.inl rfl))
        exact Or.inr ⟨us', ids, _, hread, hrec, hfinal, hknows⟩

theorem registerOnce_apply (id location : String) (m : Memory) :
    w.registerOnce id location m = if m.types.contains (Path.normal location) then (.ok (), m)
      else match w.register id m with
        | (.error e, m') => (.error e, m')
        | (.ok _, m') => (.ok (), m') := by
  have h : w.registerOnce id location m = (if !m.types.contains (Path.normal location) then
      (w.register id >>= fun _ => pure () : Session Unit) else pure ()) m := by
    unfold Workspace.registerOnce
    show (ite _ _ _ : Session Unit) m = _
    split <;> rfl
  rw [h]
  cases m.types.contains (Path.normal location) with
  | true => rfl
  | false =>
    rw [if_neg Bool.false_ne_true, Bool.not_false, if_pos rfl, session_bind]
    generalize w.register id m = y
    obtain ⟨r, m'⟩ := y
    cases r <;> rfl

/-- **What is asked of a registered location is answered as its files tell it.** -/
theorem gives_registered {id location : String} (hid : w.location? id = some location) {α : Type}
    (ask : Memory → α) {told : List SourceUnit → α}
    (hask : ∀ {m us}, Memory.Knows w m location us → ask m = told us) :
    Gives (Coherent w) (w.registerOnce id location >>= fun _ => fun m => (.ok (ask m), m) : Session α)
      ((w.readPackage location).map told) := by
  intro m h
  rw [session_bind, registerOnce_apply]
  split
  · rename_i m' heq
    split at heq
    · rename_i hreg
      cases heq
      obtain ⟨us, hread, hknows⟩ := h.knows hreg
      rw [hread, hask hknows]
      exact ⟨rfl, h⟩
    · rcases h.register_some hid with ⟨e, m₁, -, hr, -⟩ | ⟨us, ids, m₁, hread, hr, hc, hknows⟩
      · rw [hr] at heq
        cases heq
      · rw [hr] at heq
        cases heq
        rw [hread, hask hknows]
        exact ⟨rfl, hc⟩
  · rename_i e m' heq
    split at heq
    · cases heq
    · rcases h.register_some hid with ⟨e₁, m₁, hread, hr, hc⟩ | ⟨us, ids, m₁, -, hr, -, -⟩
      · rw [hr] at heq
        cases heq
        rw [hread]
        exact ⟨rfl, hc⟩
      · rw [hr] at heq
        cases heq

/-! ### Declarations -/

theorem gives_lookup (package name : String) :
    Gives (Coherent w) (w.lookup package name) (w.plain.declared package name) := by
  have hfind : Gives (Coherent w) (w.tryResolve package : Session (Option String))
      (.ok (w.location? package)) := (gives_tryResolve package).lift
  refine hfind.ok_bind ?_
  unfold Workspace.plain
  dsimp only
  cases hloc : w.location? package with
  | none => exact gives_pure none
  | some location =>
    refine gives_registered hloc (fun m => m.type? location name) fun hknows => ?_
    unfold Memory.type?
    rw [hknows.1]
    rfl

theorem gives_candidates (package name : String) :
    Gives (Coherent w) (w.candidates package name) (w.plain.imported package name) := by
  have hfind := gives_resolve (w := w) package
  unfold Workspace.plain
  dsimp only
  cases hloc : w.location? package with
  | none =>
    rw [hloc] at hfind
    exact hfind.error_bind
  | some location =>
    rw [hloc] at hfind
    refine hfind.ok_bind ?_
    refine gives_registered hloc (fun m => m.candidates? location name) fun hknows => ?_
    unfold Memory.candidates? Memory.importTable?
    rw [hknows.2]
    rfl

end ApiScribe
