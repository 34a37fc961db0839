import ApiScribe.Proofs.Model.History
import ApiScribe.Proofs.Package.Discovery

/-!
# Registered locations

The first time a package is registered, the answer are the packages that its location imports; from
then on there is no answer.

* `Imports` — one location imports another;
* `Locating` — a session that remembers locations of packages and nothing else;
* `Registry` — what is remembered when imports are only recorded with the types;
* `Registry.register` — what registering a package adds, and what it answers.
-/

namespace ApiScribe

/-! ### Imports of a location -/

namespace Workspace

/-- The packages that the sources of a location import, but for those that are ignored. -/
def importsAt (w : Workspace) (location : String) : List String :=
  match w.readPackage location with
  | .ok us => (w.importsOf us).map (·.path)
  | .error _ => []

/-- A package that is imported at `a` has the location `b`. -/
def Imports (w : Workspace) (a b : String) : Prop :=
  ∃ id ∈ w.importsAt a, w.location? id = some b

theorem importsAt_of_readsAs {w : Workspace} {location : String} {us : List SourceUnit}
    (h : w.ReadsAs (Path.normal location) us) :
    w.importsAt location = (w.importsOf us).map (·.path) := by
  obtain ⟨us', hread, hsame⟩ := h.readPackage
  unfold importsAt
  rw [hread]
  exact congrArg (List.map (·.path)) (importsOf_congr hsame)

end Workspace

/-! ### Sessions that look for packages -/

/-- Nothing is remembered anew but locations of packages. -/
def Locating {α : Type} (x : StateM Memory α) : Prop :=
  ∀ m, ∃ locations, (x m).2 = { m with locations }

section

variable {w : Workspace} {α β : Type}

theorem locating_value (a : α) : Locating (pure a) := fun m => ⟨m.locations, rfl⟩

theorem locating_pure (a : α) : Locating (pure a : Session α) := fun m => ⟨m.locations, rfl⟩

theorem locating_throw (e : Error) : Locating (throw e : Session α) := fun m => ⟨m.locations, rfl⟩

theorem Locating.stateM_bind {x : StateM Memory α} {f : α → StateM Memory β} (hx : Locating x)
    (hf : ∀ a, Locating (f a)) : Locating (x >>= f) := by
  intro m
  obtain ⟨locations, hm⟩ := hx m
  obtain ⟨locations', hm'⟩ := hf (x m).1 (x m).2
  rw [ApiScribe.stateM_bind, hm', hm]
  exact ⟨locations', rfl⟩

theorem Locating.lift {x : StateM Memory α} (h : Locating x) : Locating (x : Session α) := h

theorem Locating.bind {x : Session α} {f : α → Session β} (hx : Locating x)
    (hf : ∀ a, Locating (f a)) : Locating (x >>= f : Session β) := by
  intro m
  obtain ⟨locations, hm⟩ := hx m
  rw [session_bind]
  generalize x m = y at hm ⊢
  obtain ⟨r, m'⟩ := y
  cases hm
  cases r with
  | error e => exact ⟨locations, rfl⟩
  | ok a => exact hf a { m with locations }

theorem locating_remember (id : String) {search : StateM Memory (Option String)}
    (h : Locating search) : Locating (Workspace.remember id search) := by
  intro m
  rw [remember_apply]
  split
  · exact ⟨m.locations, rfl⟩
  · obtain ⟨locations, hm⟩ := h m
    rw [hm]
    exact ⟨_, rfl⟩

theorem locating_tryResolveEntry (id : String) : Locating (w.tryResolveEntry id) :=
  locating_remember id (locating_value _)

theorem locating_vendored (rel : String) (entries : List String) :
    Locating (w.vendored rel entries) := by
  induction entries with
  | nil => exact locating_value none
  | cons entry entries ih =>
    unfold Workspace.vendored
    refine (locating_tryResolveEntry entry).stateM_bind fun location => ?_
    cases location with
    | none => exact ih
    | some location =>
      dsimp only
      cases w.files.directory? (Path.join (Path.join location "vendor") rel) with
      | none => exact ih
      | some found => exact locating_value _

theorem locating_tryResolve (id : String) : Locating (w.tryResolve id) := by
  unfold Workspace.tryResolve
  split
  · exact locating_tryResolveEntry id
  · refine locating_remember id ?_
    cases w.firstDirectory (w.earlyPaths id) with
    | some found => exact locating_value _
    | none =>
      dsimp only
      split
      · refine (locating_value none).stateM_bind fun found => ?_
        cases found <;> exact locating_value _
      · refine (locating_vendored _ _).stateM_bind fun found => ?_
        cases found <;> exact locating_value _

theorem locating_resolve (id : String) : Locating (w.resolve id) := by
  refine (locating_tryResolve id).lift.bind fun location => ?_
  cases location with
  | some location => exact locating_pure location
  | none => exact locating_throw _

theorem locating_discover (id : String) : Locating (w.discover id) := by
  refine (locating_resolve id).bind fun location => ?_
  cases Package.scan w.files location id with
  | ok ids => exact locating_pure _
  | error e => exact locating_throw e

end

/-! ### Registering -/

/-- What is remembered is coherent, and imports are only recorded with the types. -/
structure Registry (w : Workspace) (m : Memory) : Prop extends Coherent w m where
  registered : ∀ {key}, m.imports.contains key → m.types.contains key

variable {w : Workspace} {m : Memory} {id location : String}

theorem registry_empty (w : Workspace) : Registry w {} where
  toCoherent := coherent_empty w
  registered := fun h => by cases h

theorem Registry.locate {locations : KeyMap (Option String)} (h : Registry w m)
    (hm : Coherent w { m with locations }) : Registry w { m with locations } where
  toCoherent := hm
  registered := h.registered

theorem Registry.tryResolve (h : Registry w m) (id : String) : ∃ locations,
    w.tryResolve id m = (w.location? id, { m with locations }) ∧
      Registry w { m with locations } := by
  obtain ⟨hfound, hm⟩ := gives_tryResolve id m h.toCoherent
  obtain ⟨locations, hlocations⟩ := locating_tryResolve (w := w) id m
  rw [hlocations] at hm
  exact ⟨locations, Prod.ext hfound hlocations, h.locate hm⟩

theorem Registry.resolve (h : Registry w m) (id : String) : ∃ locations,
    w.resolve id m = ((match w.location? id with
      | some location => .ok location
      | none => .error (.packageNotFound id)), { m with locations }) ∧
      Registry w { m with locations } := by
  obtain ⟨hfound, hm⟩ := gives_resolve id m h.toCoherent
  obtain ⟨locations, hlocations⟩ := locating_resolve (w := w) id m
  rw [hlocations] at hm
  exact ⟨locations, Prod.ext hfound hlocations, h.locate hm⟩

theorem Registry.register_none (h : Registry w m) (hid : w.location? id = none) : ∃ locations,
    w.register id m = (.error (.packageNotFound id), { m with locations }) ∧
      Registry w { m with locations } := by
  obtain ⟨locations, hresolve, hm⟩ := h.resolve id
  rw [hid] at hresolve
  refine ⟨locations, ?_, hm⟩
  rw [register_apply, hresolve]

/-- **Registering a package registers its location**, if that can be listed or is registered already.
The first time the answer are the packages that the location imports, and then none. -/
theorem Registry.register (h : Registry w m) (hid : w.location? id = some location) :
    (∃ ids m', w.register id m = (.ok ids, m') ∧ Registry w m' ∧
      (∀ key, m'.types.contains key ↔ key = location ∨ m.types.contains key) ∧
      (m.types.contains location ∧ ids = [] ∨
        ¬m.types.contains location ∧ ∀ path, path ∈ ids ↔ path ∈ w.importsAt location)) ∨
    ∃ cause locations, w.files.list location = .error cause ∧ ¬m.types.contains location ∧
      w.register id m = (.error (.io location cause), { m with locations }) ∧
      Registry w { m with locations } := by
  obtain ⟨locations, hresolve, hm⟩ := h.resolve id
  have hnormal := Workspace.normal_location hid
  have hcoherent := h.toCoherent.register id
  rw [hid] at hresolve
  rw [register_apply, hresolve] at hcoherent ⊢
  dsimp only at hcoherent ⊢
  rw [hnormal] at hcoherent ⊢
  by_cases hreg : m.types.contains location
  · rw [if_pos hreg]
    refine Or.inl ⟨[], _, rfl, hm, fun key => ?_, Or.inl ⟨hreg, rfl⟩⟩
    exact ⟨Or.inr, fun h => h.elim (fun hkey => hkey ▸ hreg) fun hkey => hkey⟩
  · rw [if_neg hreg] at hcoherent ⊢
    rcases hm.toSound.loadPackage location with ⟨e, he, hload⟩ | ⟨us, units, hus, hload, hsound⟩
    · obtain ⟨cause, hlist, rfl⟩ := Workspace.readPackage_error.mp he
      rw [hload]
      exact Or.inr ⟨cause, locations, hlist, hreg, rfl, hm⟩
    rw [hload] at hcoherent ⊢
    dsimp only at hcoherent ⊢
    -- no imports are recorded yet, as no types are registered
    have hnew : ¬m.imports.contains location := fun himports => hreg (h.registered himports)
    have htypes := hsound.insert_types hus
    rw [hnormal] at htypes
    rcases htypes.loadPackage location with ⟨e, he, -⟩ | ⟨us', units', hus', hload', -⟩
    · obtain ⟨_, hread, -⟩ := hus.readPackage
      cases hread.symm.trans he
    rw [recordImports_apply, hnormal, if_neg hnew, hload'] at hcoherent ⊢
    refine Or.inl ⟨_, _, rfl, ⟨hcoherent, fun {key} hkey => ?_⟩, fun key => ?_,
      Or.inr ⟨hreg, fun path => ?_⟩⟩
    · rcases KeyMap.contains_insert_iff.mp hkey with hkey | hkey
      · exact KeyMap.contains_insert (Or.inl hkey)
      · exact KeyMap.contains_insert (Or.inr (h.registered hkey))
    · exact KeyMap.contains_insert_iff
    · rw [mem_foldl_pushNew, Workspace.importsAt_of_readsAs hus']
      simp

/-- The directories of registered locations can be listed. -/
theorem Registry.list_registered (h : Registry w m) (hid : w.location? id = some location)
    (hreg : m.types.contains location) : ∃ es, w.files.list location = .ok es := by
  obtain ⟨types, htypes⟩ := KeyMap.contains_iff.mp hreg
  obtain ⟨us, hus, -⟩ := h.types htypes
  rw [← Workspace.normal_location hid] at hus
  obtain ⟨_, hread, -⟩ := hus.readPackage
  cases hlist : w.files.list location with
  | ok es => exact ⟨es, rfl⟩
  | error cause =>
    rw [Workspace.readPackage_error.mpr ⟨cause, hlist, rfl⟩] at hread
    cases hread

end ApiScribe
