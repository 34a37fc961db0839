import ApiScribe.Proofs.Model.History

/-!
# What is remembered stays

An answer is written down where there was none, and is never written over.

* `Memory.Within` — all that one memory holds, another holds too, with the imports of what it registers;
* `Growing` — a session ends in a memory that holds all that was held before;
* `Build.Growing` — so does building, as far as it comes to an end;
* `Memory.within_ask`, `Memory.within_amid` — every request adds to the memory, and so do many, however
  the files change in between.
-/

namespace ApiScribe

/-! ### More and more is remembered -/

/-- All that one map answers, another answers too. -/
def KeyMap.Within {α : Type} (a b : KeyMap α) : Prop :=
  ∀ k v, a.get? k = some v → b.get? k = some v

theorem KeyMap.within_refl {α : Type} (a : KeyMap α) : a.Within a := fun _ _ h => h

theorem KeyMap.Within.trans {α : Type} {a b c : KeyMap α} (h : a.Within b) (h' : b.Within c) :
    a.Within c := fun k v hv => h' k v (h k v hv)

theorem KeyMap.within_insert {α : Type} {a : KeyMap α} {k : String} (h : a.get? k = none) (v : α) :
    a.Within (a.insert k v) := by
  intro k' v' hv
  have hne : k' ≠ k := by
    rintro rfl
    cases h.symm.trans hv
  rw [get?_insert, if_neg hne, hv]

theorem KeyMap.get?_eq_none {α : Type} {a : KeyMap α} {k : String} (h : ¬a.contains k) :
    a.get? k = none := by
  simpa [contains] using h

/-- All that one memory holds, another holds too; and of what is registered there besides, the imports
are recorded. -/
structure Memory.Within (m m' : Memory) : Prop where
  locations : m.locations.Within m'.locations
  units : m.units.Within m'.units
  imports : m.imports.Within m'.imports
  types : m.types.Within m'.types
  recorded : ∀ {key}, m'.types.contains key → m.types.contains key ∨ m'.imports.contains key

theorem KeyMap.Within.contains {α : Type} {a b : KeyMap α} (h : a.Within b) {k : String}
    (hk : a.contains k) : b.contains k := by
  obtain ⟨v, hv⟩ := contains_iff.mp hk
  exact contains_iff.mpr ⟨v, h k v hv⟩

theorem Memory.within_refl (m : Memory) : m.Within m :=
  ⟨KeyMap.within_refl _, KeyMap.within_refl _, KeyMap.within_refl _, KeyMap.within_refl _, Or.inl⟩

theorem Memory.Within.trans {m m' m'' : Memory} (h : m.Within m') (h' : m'.Within m'') :
    m.Within m'' where
  locations := h.locations.trans h'.locations
  units := h.units.trans h'.units
  imports := h.imports.trans h'.imports
  types := h.types.trans h'.types
  recorded hkey := (h'.recorded hkey).elim
    (fun hkey => (h.recorded hkey).imp_right h'.imports.contains) Or.inr

theorem Memory.Within.insert_location {m m' : Memory} (h : m.Within m') {id : String}
    (hid : m'.locations.get? id = none) (found : Option String) :
    m.Within { m' with locations := m'.locations.insert id found } :=
  ⟨h.locations.trans (KeyMap.within_insert hid found), h.units, h.imports, h.types, h.recorded⟩

/-- A session ends in a memory that holds all that was held before. -/
def Growing {α : Type} (x : StateM Memory α) : Prop := ∀ m : Memory, m.Within (x m).2

section

variable {w : Workspace} {α β : Type}

theorem growing_pure (a : α) : Growing (pure a : Session α) := fun m => m.within_refl

theorem growing_throw (e : Error) : Growing (throw e : Session α) := fun m => m.within_refl

theorem growing_answer (ask : Memory → α) : Growing (fun m => (.ok (ask m), m) : Session α) :=
  fun m => m.within_refl

theorem Growing.lift {x : StateM Memory α} (h : Growing x) : Growing (x : Session α) := h

theorem Growing.bind {x : Session α} {f : α → Session β} (hx : Growing x)
    (hf : ∀ a, Growing (f a)) : Growing (x >>= f : Session β) := by
  intro m
  have hm := hx m
  rw [session_bind]
  generalize x m = y at hm ⊢
  obtain ⟨r, m'⟩ := y
  cases r with
  | error e => exact hm
  | ok a => exact hm.trans (hf a m')

/-! ### Locations -/

/-- A search ends so too, and nothing is written down for the package `id` on the way. -/
def GrowingBeside (id : String) {α : Type} (x : StateM Memory α) : Prop :=
  ∀ m : Memory, m.Within (x m).2 ∧ (x m).2.locations.get? id = m.locations.get? id

variable {id : String}

theorem growingBeside_pure (a : α) : GrowingBeside id (pure a) := fun m => ⟨m.within_refl, rfl⟩

theorem GrowingBeside.bind {x : StateM Memory α} {f : α → StateM Memory β}
    (hx : GrowingBeside id x) (hf : ∀ a, GrowingBeside id (f a)) : GrowingBeside id (x >>= f) := by
  intro m
  obtain ⟨hm, hid⟩ := hx m
  obtain ⟨hm', hid'⟩ := hf (x m).1 (x m).2
  exact ⟨hm.trans hm', hid'.trans hid⟩

theorem growing_remember {search : StateM Memory (Option String)} (h : GrowingBeside id search) :
    Growing (Workspace.remember id search) := by
  intro m
  obtain ⟨hm, hid⟩ := h m
  rw [remember_apply]
  cases hget : m.locations.get? id with
  | some found => exact m.within_refl
  | none => exact hm.insert_location (hid.trans hget) _

theorem growing_tryResolveEntry (id : String) : Growing (w.tryResolveEntry id) :=
  growing_remember (growingBeside_pure _)

theorem growingBeside_tryResolveEntry {entry : String} (h : id ≠ entry) :
    GrowingBeside id (w.tryResolveEntry entry) := by
  refine fun m => ⟨growing_tryResolveEntry entry m, ?_⟩
  unfold Workspace.tryResolveEntry
  rw [remember_apply]
  split
  · rfl
  · exact KeyMap.get?_insert.trans (if_neg h)

theorem growingBeside_vendored (rel : String) {entries : List String} (h : id ∉ entries) :
    GrowingBeside id (w.vendored rel entries) := by
  induction entries with
  | nil => exact growingBeside_pure none
  | cons entry entries ih =>
    obtain ⟨hne, hrest⟩ := not_or.mp (mt List.mem_cons.mpr h)
    unfold Workspace.vendored
    refine (growingBeside_tryResolveEntry hne).bind fun location => ?_
    cases location with
    | none => exact ih hrest
    | some location =>
      dsimp only
      cases w.files.directory? (Path.join (Path.join location "vendor") rel) with
      | none => exact ih hrest
      | some found => exact growingBeside_pure _

theorem growing_tryResolve (id : String) : Growing (w.tryResolve id) := by
  unfold Workspace.tryResolve
  split
  · exact growing_tryResolveEntry id
  · rename_i hid
    -- the search asks for the entry packages at most, and this is none of them
    have hother : id ∉ w.search.entryPackages := fun h => hid (List.contains_iff_mem.mpr h)
    refine growing_remember ?_
    cases w.firstDirectory (w.earlyPaths id) with
    | some found => exact growingBeside_pure _
    | none =>
      dsimp only
      split
      · refine (growingBeside_pure none).bind fun found => ?_
        cases found <;> exact growingBeside_pure _
      · refine (growingBeside_vendored _ hother).bind fun found => ?_
        cases found <;> exact growingBeside_pure _

/-- However a package is searched for, its location is remembered. -/
theorem exists_remember (w : Workspace) (id : String) :
    ∃ search, w.tryResolve id = Workspace.remember id search := by
  unfold Workspace.tryResolve
  split
  · exact ⟨_, rfl⟩
  · exact ⟨_, rfl⟩

theorem get?_tryResolve (w : Workspace) (id : String) (m : Memory) :
    (w.tryResolve id m).2.locations.get? id = some (w.tryResolve id m).1 := by
  obtain ⟨search, hsearch⟩ := exists_remember w id
  rw [hsearch, remember_apply]
  cases hget : m.locations.get? id with
  | some found => exact hget
  | none => exact KeyMap.get?_insert_self _ _ _

theorem contains_tryResolve (w : Workspace) (id : String) (m : Memory) :
    (w.tryResolve id m).2.locations.contains id :=
  KeyMap.contains_iff.mpr ⟨_, get?_tryResolve w id m⟩

theorem tryResolve_known {m : Memory} (h : m.locations.contains id) : (w.tryResolve id m).2 = m := by
  obtain ⟨found, hfound⟩ := KeyMap.contains_iff.mp h
  obtain ⟨search, hsearch⟩ := exists_remember w id
  rw [hsearch, remember_apply, hfound]

theorem resolve_apply (w : Workspace) (id : String) (m : Memory) :
    w.resolve id m = (match (w.tryResolve id m).1 with
      | some location => .ok location
      | none => .error (.packageNotFound id), (w.tryResolve id m).2) := by
  have hfound : (w.tryResolve id : Session (Option String)) m =
      (.ok (w.tryResolve id m).1, (w.tryResolve id m).2) := rfl
  unfold Workspace.resolve
  rw [exceptT_bind_ok hfound]
  cases (w.tryResolve id m).1 <;> rfl

/-- Where a package is discovered it is looked up, and nothing else is remembered. -/
theorem discover_memory (w : Workspace) (id : String) (m : Memory) :
    (w.discover id m).2 = (w.tryResolve id m).2 := by
  unfold Workspace.discover
  rw [session_bind, resolve_apply]
  cases (w.tryResolve id m).1 with
  | none => rfl
  | some location =>
    dsimp only
    cases Package.scan w.files location id <;> rfl

theorem growing_resolve (id : String) : Growing (w.resolve id) := by
  refine (growing_tryResolve id).lift.bind fun location => ?_
  cases location with
  | some location => exact growing_pure location
  | none => exact growing_throw _

theorem growing_discover (id : String) : Growing (w.discover id) := by
  refine (growing_resolve id).bind fun location => ?_
  cases Package.scan w.files location id with
  | ok ids => exact growing_pure _
  | error e => exact growing_throw e

/-! ### Sources, imports and types -/

theorem loadPackage_memory (path : String) (m : Memory) :
    ∃ units, m.units.Within units ∧ (w.loadPackage path m).2 = { m with units } := by
  rw [loadPackage_apply]
  cases hget : m.units.get? (Path.normal path) with
  | some us => exact ⟨m.units, KeyMap.within_refl _, rfl⟩
  | none =>
    cases w.readPackage path with
    | error e => exact ⟨m.units, KeyMap.within_refl _, rfl⟩
    | ok us => exact ⟨_, KeyMap.within_insert hget us, rfl⟩

theorem growing_loadPackage (path : String) : Growing (w.loadPackage path) := by
  intro m
  obtain ⟨units, hunits, hm⟩ := loadPackage_memory (w := w) path m
  rw [hm]
  exact ⟨KeyMap.within_refl _, hunits, KeyMap.within_refl _, KeyMap.within_refl _, Or.inl⟩

theorem loadPackage_known {m : Memory} {path : String} {us : List SourceUnit}
    (h : m.units.get? (Path.normal path) = some us) : w.loadPackage path m = (.ok us, m) := by
  rw [loadPackage_apply, h]

theorem units_of_loadPackage {m m' : Memory} {path : String} {us : List SourceUnit}
    (h : w.loadPackage path m = (.ok us, m')) : m'.units.get? (Path.normal path) = some us := by
  rw [loadPackage_apply] at h
  split at h
  · cases h
    assumption
  · split at h
    · cases h
    · cases h
      exact KeyMap.get?_insert_self _ _ _

/-- The imports of a directory that has been loaded are recorded without an error. -/
theorem recordImports_loaded {m : Memory} {path : String} {us : List SourceUnit}
    (h : m.units.get? (Path.normal path) = some us) :
    ∃ paths imports, m.imports.Within imports ∧ imports.contains (Path.normal path) ∧
      w.recordImports path m = (.ok paths, { m with imports }) := by
  rw [recordImports_apply]
  split
  · rename_i hknown
    exact ⟨_, _, KeyMap.within_refl _, hknown, rfl⟩
  · rename_i hnew
    rw [loadPackage_known h]
    exact ⟨_, _, KeyMap.within_insert (KeyMap.get?_eq_none hnew) _,
      KeyMap.contains_insert (Or.inl rfl), rfl⟩

theorem growing_recordImports (path : String) : Growing (w.recordImports path) := by
  intro m
  obtain ⟨units, hunits, hm⟩ := loadPackage_memory (w := w) path m
  rw [recordImports_apply]
  split
  · exact m.within_refl
  · rename_i hnew
    generalize w.loadPackage path m = y at hm ⊢
    obtain ⟨r, m'⟩ := y
    cases hm
    cases r with
    | error e =>
      exact ⟨KeyMap.within_refl _, hunits, KeyMap.within_refl _, KeyMap.within_refl _, Or.inl⟩
    | ok us =>
      exact ⟨KeyMap.within_refl _, hunits, KeyMap.within_insert (KeyMap.get?_eq_none hnew) _,
        KeyMap.within_refl _, Or.inl⟩

/-- When the package has been looked up, registering adds to the memory. -/
theorem within_register (id : String) (m : Memory) :
    (w.tryResolve id m).2.Within (w.register id m).2 := by
  rw [register_apply, resolve_apply]
  cases (w.tryResolve id m).1 with
  | none => exact Memory.within_refl _
  | some location =>
    dsimp only
    generalize (w.tryResolve id m).2 = m'
    split
    · exact m'.within_refl
    · rename_i hnew
      obtain ⟨units, hunits, hm⟩ := loadPackage_memory (w := w) location m'
      generalize hload : w.loadPackage location m' = y at hm ⊢
      obtain ⟨r, m''⟩ := y
      cases hm
      cases r with
      | error e =>
        exact ⟨KeyMap.within_refl _, hunits, KeyMap.within_refl _, KeyMap.within_refl _, Or.inl⟩
      | ok us =>
        -- The types come first, but the sources are there, so that the imports follow.
        have hloaded : units.get? (Path.normal location) = some us := units_of_loadPackage hload
        obtain ⟨paths, imports, himports, hrecorded, hrun⟩ := recordImports_loaded (w := w)
          (m := { m' with
            units, types := m'.types.insert (Path.normal location) (Workspace.typesOf us) }) hloaded
        dsimp only
        rw [hrun]
        refine ⟨KeyMap.within_refl _, hunits, himports,
          KeyMap.within_insert (KeyMap.get?_eq_none hnew) _, fun hkey => ?_⟩
        rcases KeyMap.contains_insert_iff.mp hkey with rfl | hkey
        · exact Or.inr hrecorded
        · exact Or.inl hkey

theorem growing_register (id : String) : Growing (w.register id) := fun m =>
  (growing_tryResolve id m).trans (within_register id m)

theorem contains_recordImports {m m' : Memory} {path : String} {paths : List String}
    (h : w.recordImports path m = (.ok paths, m')) : m'.imports.contains (Path.normal path) := by
  rw [recordImports_apply] at h
  split at h
  · cases h
    assumption
  · generalize w.loadPackage path m = y at h
    obtain ⟨r, m''⟩ := y
    cases r with
    | error e => cases h
    | ok us =>
      cases h
      exact KeyMap.contains_insert (Or.inl rfl)

/-- Once a package has been registered, it has a location, and the location is registered. -/
theorem location_of_register {m m' : Memory} {id : String} {paths : List String}
    (h : w.register id m = (.ok paths, m')) :
    ∃ location, (w.tryResolve id m).1 = some location ∧ m'.isRegistered location := by
  rw [register_apply, resolve_apply] at h
  cases hfound : (w.tryResolve id m).1 with
  | none =>
    rw [hfound] at h
    cases h
  | some location =>
    rw [hfound] at h
    dsimp only at h
    refine ⟨location, rfl, ?_⟩
    split at h
    · cases h
      assumption
    · generalize w.loadPackage location _ = y at h
      obtain ⟨r, m''⟩ := y
      cases r with
      | error e => cases h
      | ok us =>
        have hkept := growing_recordImports (w := w) location
          { m'' with types := m''.types.insert (Path.normal location) (Workspace.typesOf us) }
        rw [show w.recordImports location _ = _ from h] at hkept
        exact hkept.types.contains (KeyMap.contains_insert (Or.inl rfl))

theorem growing_registerOnce (id location : String) : Growing (w.registerOnce id location) := by
  intro m
  have hregister := growing_register (w := w) id m
  rw [registerOnce_apply]
  split
  · exact m.within_refl
  · generalize w.register id m = y at hregister ⊢
    obtain ⟨r, m'⟩ := y
    cases r <;> exact hregister

/-! ### Declarations -/

theorem growing_lookup (package name : String) : Growing (w.lookup package name) := by
  refine (growing_tryResolve package).lift.bind fun location => ?_
  cases location with
  | none => exact growing_pure none
  | some location => exact (growing_registerOnce package location).bind fun _ => growing_answer _

theorem growing_candidates (package name : String) : Growing (w.candidates package name) := by
  refine (growing_resolve package).bind fun location => ?_
  exact (growing_registerOnce package location).bind fun _ => growing_answer _

end

namespace Packages

/-- Asking for what single packages declare and import adds to the memory. -/
structure Growing (ps : Packages Session) : Prop where
  declared : ∀ package name, ApiScribe.Growing (ps.declared package name)
  imported : ∀ package name, ApiScribe.Growing (ps.imported package name)

variable {ps : Packages Session}

theorem Growing.declaredIn (h : ps.Growing) (name : String) (packages : List String) :
    ApiScribe.Growing (ps.declaredIn name packages) := by
  induction packages with
  | nil => exact growing_pure none
  | cons package packages ih =>
    refine (h.declared package name).bind fun found => ?_
    cases found with
    | some decl => exact growing_pure _
    | none => exact ih

theorem Growing.declaredItem (h : ps.Growing) (items : List String) :
    ApiScribe.Growing (ps.declaredItem items) := by
  induction items with
  | nil => exact growing_pure none
  | cons item items ih =>
    unfold Packages.declaredItem
    cases Text.splitLast '/' item with
    | none => exact ih
    | some cut =>
      obtain ⟨package, name⟩ := cut
      refine (h.declared package name).bind fun found => ?_
      cases found with
      | some decl => exact growing_pure _
      | none => exact ih

theorem Growing.findPlain (h : ps.Growing) (name package : String) :
    ApiScribe.Growing (ps.findPlain name package) := by
  refine (h.declared package name).bind fun found => ?_
  cases found with
  | some decl => exact growing_pure _
  | none =>
    refine (h.imported package name).bind fun items => ?_
    refine (h.declaredItem (items.getD [])).bind fun found => ?_
    cases found with
    | some found => exact growing_pure _
    | none => exact growing_throw _

theorem Growing.findQualified (h : ps.Growing) (qualifier name whole package : String) :
    ApiScribe.Growing (ps.findQualified qualifier name whole package) := by
  refine (h.declared qualifier name).bind fun found => ?_
  cases found with
  | some decl => exact growing_pure _
  | none =>
    dsimp only
    split
    · exact growing_throw _
    · refine (h.imported package qualifier).bind fun packages => ?_
      cases packages with
      | none => exact growing_throw _
      | some packages =>
        refine (h.declaredIn name packages).bind fun found => ?_
        cases found with
        | some found => exact growing_pure _
        | none => exact growing_throw _

theorem Growing.find (h : ps.Growing) (name package : String) :
    ApiScribe.Growing (ps.find name package) := by
  unfold Packages.find
  split
  · exact h.findPlain name package
  · exact h.findQualified _ _ name package

end Packages

theorem growing_findDefinition {w : Workspace} (name package : String) :
    Growing (w.findDefinition name package) :=
  Packages.Growing.find ⟨growing_lookup, growing_candidates⟩ name package

/-! ### Building -/

namespace Build

/-- As far as building comes to an end, the memory then holds all that was held before. -/
def Growing {α : Type} (x : Build α) : Prop :=
  ∀ done m r m', x done m = some (r, m') → m.Within m'

section

variable {α β : Type}

theorem growing_pure (a : α) : Growing (pure a) := by
  intro done m r m' h
  cases h
  exact m.within_refl

theorem growing_get : Growing (get : Build (List String)) := by
  intro done m r m' h
  cases h
  exact m.within_refl

theorem growing_modify (f : List String → List String) : Growing (modify f : Build PUnit) := by
  intro done m r m' h
  cases h
  exact m.within_refl

theorem Growing.bind {x : Build α} {f : α → Build β} (hx : Growing x) (hf : ∀ a, Growing (f a)) :
    Growing (x >>= f) := by
  intro done m r m' h
  rw [build_bind] at h
  obtain ⟨⟨r', m₁⟩, hrun, hrest⟩ := Option.bind_eq_some_iff.mp h
  cases r' with
  | error e =>
    cases hrest
    exact hx _ _ _ _ hrun
  | ok y => exact (hx _ _ _ _ hrun).trans (hf y.1 _ _ _ _ hrest)

theorem growing_session {x : Session α} (h : ApiScribe.Growing x) : Growing (liftM x : Build α) := by
  intro done m r m' hrun
  cases (build_session x done m).symm.trans hrun
  exact h m

end

/-- The calls add to the memory. -/
structure Calls.Growing (calls : Calls) : Prop where
  resolve : ∀ trail name package, Build.Growing (calls.resolve trail name package)
  embed : ∀ trail name package, Build.Growing (calls.embed trail name package)

section

variable {w : Workspace} {overrides : Overrides} {calls : Calls}

theorem growing_find (name package : String) :
    Growing (liftM (find w name package) : Build Declared) :=
  growing_session ((growing_findDefinition name package).bind fun _ => ApiScribe.growing_pure _)

theorem Calls.Growing.embedAll (h : calls.Growing) (trail : Trail) (package : String)
    (fields : List FieldDecl) : Build.Growing (embedAll overrides calls trail package fields) := by
  induction fields with
  | nil => exact growing_pure []
  | cons f fs ih =>
    simp only [Build.embedAll]
    cases f.embedded? overrides with
    | none => exact ih
    | some name => exact (h.embed trail name package).bind fun _ => ih.bind fun _ => growing_pure _

theorem Calls.Growing.settleAll (h : calls.Growing) (trail : Trail) (package : String)
    (names : List String) (built : Built) :
    Build.Growing (settleAll calls trail package names built) := by
  induction names generalizing built with
  | nil => exact growing_pure built
  | cons name names ih => exact (h.resolve trail name package).bind fun _ => ih _

theorem Calls.Growing.expand (h : calls.Growing) (trail : Trail) (d : Declared) :
    Build.Growing (expand overrides calls trail d) := by
  unfold Build.expand
  cases d.decl.kind with
  | struct fields => exact (h.embedAll trail d.package fields).bind fun _ => h.settleAll _ _ _ _
  | synonym type => exact growing_pure _
  | interface => exact growing_pure _

theorem Calls.Growing.resolve_unrolled (h : calls.Growing) (trail : Trail) (name package : String) :
    Build.Growing (Build.resolve w overrides calls trail name package) := by
  unfold Build.resolve
  cases TypeName.primitive? overrides name with
  | some primitive => exact growing_pure _
  | none =>
    refine (growing_find name package).bind fun d => growing_get.bind fun done => ?_
    by_cases hknown : d.modelId ∈ trail.inProgress ∨ d.modelId ∈ done
    · simp only [if_pos hknown]
      exact growing_pure _
    · simp only [if_neg hknown]
      cases d.role overrides with
      | primitive primitive => exact growing_pure _
      | follows target => exact h.resolve _ target d.package
      | model =>
        exact (h.expand _ d).bind fun _ => (growing_modify _).bind fun _ => growing_pure _

theorem Calls.Growing.embed_unrolled (h : calls.Growing) (trail : Trail) (name package : String) :
    Build.Growing (Build.embed w overrides calls trail name package) := by
  unfold Build.embed
  refine (growing_find name package).bind fun d => ?_
  by_cases hknown : d.modelId ∈ trail.embedding
  · simp only [if_pos hknown]
    exact growing_pure _
  · simp only [if_neg hknown]
    split
    · exact h.embed _ _ d.package
    · exact growing_pure _
    · exact (h.expand _ d).bind fun _ => growing_pure _

theorem growing_none : Calls.none.Growing where
  resolve := fun _ _ _ _ _ _ _ h => nomatch h
  embed := fun _ _ _ _ _ _ _ h => nomatch h

/-- **Calls add to the memory**, however deep they are unrolled, if those below do. -/
theorem Calls.Growing.callsAbove (h : calls.Growing) (depth : ℕ) :
    (Build.callsAbove w overrides calls depth).Growing := by
  induction depth with
  | zero => exact h
  | succ depth ih =>
    constructor
    · exact ih.resolve_unrolled
    · exact ih.embed_unrolled

theorem growing_start (name package : String) :
    ApiScribe.Growing (start w overrides name package) := by
  intro m
  let deep : Calls := callsTo w overrides (w.depthFrom overrides [name] package)
  have hdeep : deep.Growing := growing_none.callsAbove _
  have hbelow : (Calls.delay fun _ => deep).Growing := ⟨hdeep.resolve, hdeep.embed⟩
  have hcalls : (Build.callsAbove w overrides (.delay fun _ => deep) 1000).Growing :=
    hbelow.callsAbove 1000
  unfold start
  dsimp only
  rw [run'_eq]
  generalize hrun : (Build.callsAbove w overrides _ 1000).resolve {} name package [] m = y
  cases y with
  | none => exact m.within_refl
  | some y => exact hcalls.resolve {} name package _ _ _ _ hrun

end

end Build

/-! ### Requests -/

section

variable {w : Workspace}

theorem growing_expand (overrides : Overrides) (name package : String) :
    Growing (w.expand overrides name package) := by
  refine (Build.growing_start name package).bind fun outcome => ?_
  rcases outcome with ⟨_, _ | d⟩ | d | ⟨model, inner⟩
  · exact growing_throw _
  · exact growing_pure _
  · exact growing_pure _
  · exact growing_pure _

theorem growing_resolveModel (overrides : Overrides) (name package : String) :
    Growing (w.resolveModel overrides name package) :=
  (growing_expand overrides name package).bind fun _ => growing_pure _

theorem growing_resolveType (overrides : Overrides) (name package : String) :
    Growing (w.resolveType overrides name package) := by
  refine (Build.growing_start name package).bind fun outcome => ?_
  rcases outcome with ⟨_, _⟩ | d | ⟨model, inner⟩
  · exact growing_pure _
  · exact growing_pure _
  · exact growing_pure _

end

/-- **A request adds to the memory**, and leaves all that is there as it is. -/
theorem Memory.within_ask (w : Workspace) (m : Memory) (r : Request) : m.Within (w.ask m r) := by
  cases r with
  | tryResolve id => exact growing_tryResolve id m
  | resolve id => exact growing_resolve id m
  | discover id => exact growing_discover id m
  | loadPackage path => exact growing_loadPackage path m
  | recordImports path => exact growing_recordImports path m
  | register id => exact growing_register id m
  | findDefinition name package => exact growing_findDefinition name package m
  | resolveModel overrides name package => exact growing_resolveModel overrides name package m
  | resolveType overrides name package => exact growing_resolveType overrides name package m

/-- What is remembered when some more requests have been answered, each with the files as they are by
then. -/
def Workspace.amid (w : Workspace) (m : Memory) (later : List (FileTree × Request)) : Memory :=
  later.foldl (fun m (files, r) => Workspace.ask { w with files } m r) m

/-- **What is remembered stays**, whatever is asked later and however the files change. -/
theorem Memory.within_amid (w : Workspace) (m : Memory) (later : List (FileTree × Request)) :
    m.Within (w.amid m later) := by
  induction later generalizing m with
  | nil => exact m.within_refl
  | cons first later ih => exact (m.within_ask { w with files := first.1 } first.2).trans (ih _)

end ApiScribe
