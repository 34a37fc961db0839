import ApiScribe.Proofs.Model.History

/-!
# The order in which a package is searched for

* `searchOrder` — the paths on which a package is searched for, given the locations of the entry
  packages;
* `Lookups`, `lookupTo` — the search as it is said: for an entry package it makes the same lookup
  again, and every lookup writes down its answer;
* `tryResolve_searched` — a lookup answers with the first directory in the order, whatever has been
  asked before, and its calls are never more than two deep.
-/

namespace ApiScribe.Workspace

variable (w : Workspace)

/-! ### The order -/

/-- Where a package is searched for, one path after the other, if these are the locations of the
entry packages that have one. -/
def searchOrder (entryLocations : List String) (id : String) : List String :=
  let rel := relative id
  (w.search.vendoringPath.toList.map fun path => Path.join path rel) ++
    [Path.join (Path.join w.search.workingDir "vendor") rel] ++
    (if w.search.disableVendoring ∨ id ∈ w.search.entryPackages then []
      else entryLocations.map fun location => Path.join (Path.join location "vendor") rel) ++
    (w.search.roots.map fun root => Path.join (Path.join root "src") rel) ++
    (w.search.stdRoot.toList.map fun root => Path.join (Path.join root "src") rel) ++
    (w.search.stdRoot.toList.map fun root => Path.join (Path.join (Path.join root "src") "pkg") rel)

theorem searchOrder_eq (entryLocations : List String) (id : String) :
    w.searchOrder entryLocations id = w.earlyPaths id ++
      (if w.search.disableVendoring ∨ id ∈ w.search.entryPackages then []
        else entryLocations.map fun location =>
          Path.join (Path.join location "vendor") (relative id)) ++ w.latePaths id := by
  unfold searchOrder earlyPaths latePaths
  cases w.search.vendoringPath <;> cases w.search.stdRoot <;> simp

variable {w}

theorem isDir_iff {path : String} : w.files.isDir path ↔ (w.files.directory? path).isSome := by
  unfold FileTree.isDir FileTree.directory?
  split <;> simp

theorem firstDirectory_eq (paths : List String) :
    w.firstDirectory paths = (paths.find? w.files.isDir).bind w.files.directory? := by
  unfold firstDirectory
  induction paths with
  | nil => rfl
  | cons path paths ih =>
    rw [List.findSome?_cons, List.find?_cons]
    cases hdir : w.files.isDir path with
    | true =>
      obtain ⟨location, hlocation⟩ := Option.isSome_iff_exists.mp (isDir_iff.mp hdir)
      rw [hlocation, Option.bind_some, hlocation]
    | false =>
      have hnone : w.files.directory? path = none := by
        simpa [hdir] using (@isDir_iff w path).not
      rw [hnone]
      exact ih

/-- Among the entry packages that have a location, the first with a directory of vendored packages
for `rel` decides. -/
theorem vendored?_eq (rel : String) :
    w.vendored? rel = w.firstDirectory ((w.search.entryPackages.filterMap w.location?).map
      fun location => Path.join (Path.join location "vendor") rel) := by
  have hentries : ∀ entries : List String,
      (∀ entry ∈ entries, w.search.entryPackages.contains entry) →
      entries.findSome? (fun entry => (w.entryLocation? entry).bind fun location =>
          w.files.directory? (Path.join (Path.join location "vendor") rel)) =
        w.firstDirectory ((entries.filterMap w.location?).map
          fun location => Path.join (Path.join location "vendor") rel) := by
    intro entries h
    induction entries with
    | nil => rfl
    | cons entry entries ih =>
      have hentry := location?_of_entry (h entry List.mem_cons_self)
      have hrest := ih fun e he => h e (List.mem_cons_of_mem _ he)
      rw [List.findSome?_cons, List.filterMap_cons, hentry, hrest]
      cases w.entryLocation? entry with
      | none => rfl
      | some location => rfl
  exact hentries _ fun entry h => List.contains_iff_mem.mpr h

/-- **The location of a package is the first directory in the order.** -/
theorem location?_eq (id : String) :
    w.location? id =
      w.firstDirectory (w.searchOrder (w.search.entryPackages.filterMap w.location?) id) := by
  rw [location?_eq_or, searchOrder_eq]
  unfold firstDirectory
  rw [List.findSome?_append, List.findSome?_append, Option.or_assoc]
  split
  · rfl
  · rw [vendored?_eq, firstDirectory]

/-! ### Lookups that look up the entry packages -/

/-- Lookups of packages, where calls may be in one another without end. -/
abbrev Lookups := String → StateT Memory Option (Option String)

section

variable (w) (calls : Lookups)

/-- The first entry package whose directory of vendored packages holds the given one. -/
def vendoredBy (rel : String) : List String → StateT Memory Option (Option String)
  | [] => pure none
  | entry :: entries => do
    match ← calls entry with
    | none => vendoredBy rel entries
    | some location =>
      match w.files.directory? (Path.join (Path.join location "vendor") rel) with
      | some found => return some found
      | none => vendoredBy rel entries

/-- Searches for a package, with the given calls for the entry packages. -/
def searchBy (id : String) : StateT Memory Option (Option String) := do
  match w.firstDirectory (w.earlyPaths id) with
  | some found => return some found
  | none =>
    let found ← if w.search.disableVendoring || w.search.entryPackages.contains id then pure none
      else vendoredBy w calls (relative id) w.search.entryPackages
    match found with
    | some found => return some found
    | none => return w.firstDirectory (w.latePaths id)

/-- Answers as before, or else searches and writes down the answer. -/
def lookupBy (id : String) : StateT Memory Option (Option String) := do
  match (← get).locations.get? id with
  | some found => return found
  | none =>
    let found ← searchBy w calls id
    modify fun m => { m with locations := m.locations.insert id found }
    return found

/-- Lookups to some depth of calls in one another; calls below it do not come to an end. -/
def lookupTo : ℕ → Lookups
  | 0 => fun _ _ => none
  | depth + 1 => lookupBy w (lookupTo depth)

end

/-- From every memory `x` comes to an end, with what `y` answers and remembers. -/
def EndsAs {α : Type} (x : StateT Memory Option α) (y : StateM Memory α) : Prop :=
  ∀ m, x m = some (y m)

theorem endsAs_pure {α : Type} (a : α) :
    EndsAs (pure a : StateT Memory Option α) (pure a : StateM Memory α) := fun _ => rfl

theorem EndsAs.bind {α β : Type} {x : StateT Memory Option α} {y : StateM Memory α}
    {f : α → StateT Memory Option β} {g : α → StateM Memory β} (hx : EndsAs x y)
    (hf : ∀ a, EndsAs (f a) (g a)) : EndsAs (x >>= f) (y >>= g) := by
  intro m
  show (x m).bind (fun p => f p.1 p.2) = _
  rw [hx m]
  exact hf _ _

theorem lookupBy_endsAs {calls : Lookups} {id : String} {search : StateM Memory (Option String)}
    (h : EndsAs (w.searchBy calls id) search) :
    EndsAs (w.lookupBy calls id) (remember id search) := by
  refine EndsAs.bind (y := (get : StateM Memory Memory)) (fun _ => rfl) fun m => ?_
  cases m.locations.get? id with
  | some found => exact endsAs_pure _
  | none => exact h.bind fun found _ => rfl

/-- An entry package is looked up without any call. -/
theorem lookupBy_entry (calls : Lookups) {id : String} (h : w.search.entryPackages.contains id) :
    EndsAs (w.lookupBy calls id) (w.tryResolveEntry id) := by
  refine lookupBy_endsAs fun m => ?_
  unfold searchBy firstDirectory
  rw [List.findSome?_append, h, Bool.or_true, if_pos rfl]
  cases (w.earlyPaths id).findSome? w.files.directory? with
  | some found => rfl
  | none => rfl

theorem vendoredBy_endsAs {calls : Lookups} (rel : String) {entries : List String}
    (h : ∀ entry ∈ entries, EndsAs (calls entry) (w.tryResolveEntry entry)) :
    EndsAs (w.vendoredBy calls rel entries) (w.vendored rel entries) := by
  induction entries with
  | nil => exact endsAs_pure none
  | cons entry entries ih =>
    have hrest := ih fun e he => h e (List.mem_cons_of_mem _ he)
    unfold vendoredBy vendored
    refine (h entry List.mem_cons_self).bind fun location => ?_
    cases location with
    | none => exact hrest
    | some location =>
      dsimp only
      cases w.files.directory? (Path.join (Path.join location "vendor") rel) with
      | none => exact hrest
      | some found => exact endsAs_pure _

theorem lookupBy_tryResolve {calls : Lookups} (id : String)
    (h : ∀ entry ∈ w.search.entryPackages, EndsAs (calls entry) (w.tryResolveEntry entry)) :
    EndsAs (w.lookupBy calls id) (w.tryResolve id) := by
  unfold tryResolve
  by_cases hid : w.search.entryPackages.contains id
  · rw [if_pos hid]
    exact lookupBy_entry calls hid
  · rw [if_neg hid]
    refine lookupBy_endsAs ?_
    unfold searchBy
    cases w.firstDirectory (w.earlyPaths id) with
    | some found => exact endsAs_pure _
    | none =>
      have hlast : ∀ found : Option String, EndsAs
          (match found with
            | some found => pure (some found)
            | none => pure (w.firstDirectory (w.latePaths id)))
          (match found with
            | some found => pure (some found)
            | none => pure (w.firstDirectory (w.latePaths id))) := by
        intro found
        cases found <;> exact endsAs_pure _
      dsimp only
      rw [Bool.eq_false_iff.mpr hid, Bool.or_false]
      split
      · exact (endsAs_pure none).bind hlast
      · exact (vendoredBy_endsAs _ h).bind hlast

/-- **Lookups are never more than two deep**: one for the package, and below it those of the entry
packages. -/
theorem lookupTo_eq (id : String) {depth : ℕ} (h : 2 ≤ depth) :
    EndsAs (w.lookupTo depth id) (w.tryResolve id) := by
  obtain ⟨depth, rfl⟩ := Nat.exists_eq_add_of_le' h
  exact lookupBy_tryResolve id fun entry hentry =>
    lookupBy_entry _ (List.contains_iff_mem.mpr hentry)

/-! ### What a lookup answers -/

/-- **Whatever has been asked before, a lookup answers with the one name of the first directory in
the order**, or with nothing if no path in it leads to a directory; the entry packages that have a
location are those that lookups answer with one.  A directory has a name, and the name leads to it by
names only.  The lookup of a package and those that it makes come to an end, from every memory, with
this answer. -/
theorem tryResolve_searched (w : Workspace) (history : List Request) (id : String) :
    let found (id : String) := (w.tryResolve id (w.after history)).1
    let order := w.searchOrder (w.search.entryPackages.filterMap found) id
    found id = (order.find? w.files.isDir).bind w.files.directory? ∧
      (∀ path, w.files.isDir path ↔ ∃ location, w.files.directory? path = some location) ∧
      (∀ path location,
        w.files.directory? path = some location ↔ w.files.IsCalled path location) ∧
      ∀ depth ≥ 2, ∀ m, w.lookupTo depth id m = some (w.tryResolve id m) := by
  intro found order
  have hfound : found = w.location? := by
    funext id
    exact (gives_tryResolve id _ (coherent_after w history)).1
  refine ⟨?_, fun path => isDir_iff.trans Option.isSome_iff_exists,
    fun path location => FileTree.isCalled_iff.symm, fun depth hdepth m => lookupTo_eq id hdepth m⟩
  show found id = ((w.searchOrder (w.search.entryPackages.filterMap found) id).find? _).bind _
  rw [hfound, location?_eq, firstDirectory_eq]

end ApiScribe.Workspace
