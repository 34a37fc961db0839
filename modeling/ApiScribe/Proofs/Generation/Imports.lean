import ApiScribe.Proofs.Generation.Steps
import ApiScribe.Proofs.Package.Registry
import Mathlib.Logic.Relation

/-!
# All that a package imports

The queue of packages to register drops each package that it has come to, and keeps no list of those
that it has seen; it ends since a location answers with its imports only once.  What carries the loop
is `Pending`: whatever a location that is new imports is met, as one that is registered or by a package
in the queue.

* `Reaches`, `ReachesAnew` — following imports, all of them or those of locations that are new;
* `Outcome` — how a queue ends: worked off, or stopped at a directory that cannot be listed;
* `drain_outcome` — one round of the queue, with what goes on from there;
* `registerTypes_reaches` — types are registered for the locations that a package reaches.
-/

namespace ApiScribe

namespace Workspace

variable (w : Workspace)

/-- One location imports another, directly or through others, or is the same. -/
def Reaches : String → String → Prop := Relation.ReflTransGen w.Imports

/-- One location reaches another by the imports of locations that are not registered. -/
def ReachesAnew (m : Memory) : String → String → Prop :=
  Relation.ReflTransGen fun a b => ¬m.types.contains a ∧ w.Imports a b

/-- A location is registered, or a package in the queue leads to it. -/
def Met (m : Memory) (queue : List String) (location : String) : Prop :=
  m.types.contains location ∨ ∃ id ∈ queue, w.location? id = some location

/-- What holds between two packages of a queue that started with `home`, when `m₀` was remembered. -/
structure Pending (m₀ : Memory) (home : String) (queue : List String) (m : Memory) : Prop where
  registry : Registry w m
  kept : ∀ {key}, m₀.types.contains key → m.types.contains key
  reached : ∀ {key}, m.types.contains key → m₀.types.contains key ∨ w.ReachesAnew m₀ home key
  queued : ∀ {id location}, id ∈ queue → w.location? id = some location →
    w.ReachesAnew m₀ home location
  start : w.Met m queue home
  met : ∀ {a b}, m.types.contains a → ¬m₀.types.contains a → w.Imports a b → w.Met m queue b

/-- Nothing is registered without what it imports. -/
def Closed (m : Memory) : Prop :=
  ∀ a b, m.types.contains a → w.Imports a b → m.types.contains b

/-- How a queue ends, and what is remembered then. -/
inductive Outcome (m₀ : Memory) (home : String) : Except Error Unit → Memory → Prop
  | done {m} (h : w.Pending m₀ home [] m) : Outcome m₀ home (.ok ()) m
  | stopped {queue m key cause} (h : w.Pending m₀ home queue m)
    (hreached : w.ReachesAnew m₀ home key) (hnew : ¬m.types.contains key)
    (hlist : w.files.list key = .error cause) : Outcome m₀ home (.error (.io key cause)) m

def unregistered (m : Memory) : ℕ :=
  w.files.root.dirPlaces.countP fun place => !m.types.contains (Path.ofSegments place)

variable {w} {m₀ m m' : Memory} {id home location : String} {queue ids : List String}

/-! ### Directories that are left -/

theorem countP_unregistered_le (h : ∀ key, m.types.contains key → m'.types.contains key)
    (places : List (List String)) :
    places.countP (fun place => !m'.types.contains (Path.ofSegments place)) ≤
      places.countP (fun place => !m.types.contains (Path.ofSegments place)) := by
  refine List.countP_mono_left fun place _ hnew => ?_
  rw [Bool.not_eq_true', Bool.eq_false_iff] at hnew ⊢
  exact fun hold => hnew (h _ hold)

theorem unregistered_lt (hid : w.location? id = some location)
    (hnew : ¬m.types.contains location)
    (htypes : ∀ key, m'.types.contains key ↔ key = location ∨ m.types.contains key) :
    w.unregistered m' < w.unregistered m := by
  obtain ⟨place, es, rfl, -, hfind⟩ := place_of_location? hid
  obtain ⟨before, after, hsplit⟩ :=
    List.append_of_mem (Entry.mem_dirPlaces (FileTree.find_dir_iff.mp hfind).2.2)
  have hkept : ∀ key, m.types.contains key → m'.types.contains key :=
    fun key hkey => (htypes key).mpr (Or.inr hkey)
  have hbefore := countP_unregistered_le hkept before
  have hafter := countP_unregistered_le hkept after
  have hhere : m'.types.contains (Path.ofSegments place) := (htypes _).mpr (Or.inl rfl)
  unfold unregistered
  rw [hsplit, List.countP_append, List.countP_append, List.countP_cons_of_neg (by simp [hhere]),
    List.countP_cons_of_pos (by simp [hnew])]
  omega

/-! ### One package of the queue -/

theorem Pending.begin (hm : Registry w m₀) (hid : w.location? id = some home) :
    w.Pending m₀ home [id] m₀ where
  registry := hm
  kept := fun h => h
  reached := Or.inl
  queued := by
    intro i location hi hlocation
    rw [List.mem_singleton.mp hi, hid] at hlocation
    cases hlocation
    exact .refl
  start := Or.inr ⟨id, List.mem_singleton_self _, hid⟩
  met := fun ha hnew _ => absurd ha hnew

theorem Met.drop {key : String} (h : w.Met m (id :: queue) key) (hid : w.location? id = none) :
    w.Met m queue key := by
  refine h.imp_right fun ⟨i, hi, hlocation⟩ => ?_
  rcases List.mem_cons.mp hi with rfl | hi
  · rw [hid] at hlocation
    cases hlocation
  · exact ⟨i, hi, hlocation⟩

theorem Pending.drop {locations : KeyMap (Option String)} (h : w.Pending m₀ home (id :: queue) m)
    (hid : w.location? id = none) (hm : Registry w { m with locations }) :
    w.Pending m₀ home queue { m with locations } where
  registry := hm
  kept := h.kept
  reached := h.reached
  queued := fun hi => h.queued (List.mem_cons_of_mem _ hi)
  start := h.start.drop hid
  met := fun ha hnew hab => (h.met ha hnew hab).drop hid

theorem Met.register {key : String} (h : w.Met m (id :: queue) key)
    (hid : w.location? id = some location)
    (htypes : ∀ key, m'.types.contains key ↔ key = location ∨ m.types.contains key) :
    w.Met m' (queue ++ ids) key := by
  rcases h with hkey | ⟨i, hi, hlocation⟩
  · exact Or.inl ((htypes key).mpr (Or.inr hkey))
  · rcases List.mem_cons.mp hi with rfl | hi
    · exact Or.inl ((htypes key).mpr (Or.inl (Option.some.inj (hlocation.symm.trans hid))))
    · exact Or.inr ⟨i, List.mem_append_left _ hi, hlocation⟩

/-- A package is registered, and what it imports stands in the queue instead. -/
theorem Pending.register (h : w.Pending m₀ home (id :: queue) m)
    (hid : w.location? id = some location) (hm : Registry w m')
    (htypes : ∀ key, m'.types.contains key ↔ key = location ∨ m.types.contains key)
    (hids : m.types.contains location ∧ ids = [] ∨
      ¬m.types.contains location ∧ ∀ path, path ∈ ids ↔ path ∈ w.importsAt location) :
    w.Pending m₀ home (queue ++ ids) m' where
  registry := hm
  kept := fun hkey => (htypes _).mpr (Or.inr (h.kept hkey))
  reached := by
    intro key hkey
    rcases (htypes key).mp hkey with rfl | hkey
    · exact Or.inr (h.queued List.mem_cons_self hid)
    · exact h.reached hkey
  queued := by
    intro i location' hi hlocation
    rcases List.mem_append.mp hi with hi | hi
    · exact h.queued (List.mem_cons_of_mem _ hi) hlocation
    · rcases hids with ⟨-, rfl⟩ | ⟨hnew, himports⟩
      · cases hi
      · exact (h.queued List.mem_cons_self hid).tail
          ⟨fun hold => hnew (h.kept hold), i, (himports i).mp hi, hlocation⟩
  start := h.start.register hid htypes
  met := by
    intro a b ha hnew hab
    by_cases hold : m.types.contains a
    · exact (h.met hold hnew hab).register hid htypes
    · -- only the location of the package itself is new
      obtain rfl := ((htypes a).mp ha).resolve_right hold
      obtain ⟨path, hpath, hb⟩ := hab
      rcases hids with ⟨hreg, -⟩ | ⟨-, himports⟩
      · exact absurd hreg hold
      · exact Or.inr ⟨path, List.mem_append_right _ ((himports path).mpr hpath), hb⟩

/-- **What is registered once a queue has been worked off** is what was, and what its first package
reaches anew. -/
theorem Pending.contains_iff (h : w.Pending m₀ home [] m) (key : String) :
    m.types.contains key ↔ m₀.types.contains key ∨ w.ReachesAnew m₀ home key := by
  have hmet : ∀ {key}, w.Met m [] key → m.types.contains key := fun h =>
    h.resolve_right fun ⟨_, hi, _⟩ => absurd hi List.not_mem_nil
  refine ⟨h.reached, ?_⟩
  rintro (hkey | hreaches)
  · exact h.kept hkey
  · induction hreaches with
    | refl => exact hmet h.start
    | tail _ hstep ih => exact hmet (h.met ih hstep.1 hstep.2)

theorem Closed.of_pending (h : w.Closed m₀) (hm : w.Pending m₀ home [] m) : w.Closed m := by
  intro a b ha hab
  by_cases hold : m₀.types.contains a
  · exact hm.kept (h a b hold hab)
  · exact (hm.contains_iff b).mpr
      (Or.inr ((((hm.contains_iff a).mp ha).resolve_left hold).tail ⟨hold, hab⟩))

theorem Outcome.registry {r : Except Error Unit} (h : w.Outcome m₀ home r m) : Registry w m := by
  cases h with
  | done h => exact h.registry
  | stopped h => exact h.registry

/-- Where nothing is registered without what it imports, only new locations are left to reach. -/
theorem Closed.reaches_iff (h : w.Closed m) (key : String) :
    m.types.contains key ∨ w.ReachesAnew m home key ↔ m.types.contains key ∨ w.Reaches home key := by
  symm
  constructor
  · rintro (hkey | hreaches)
    · exact Or.inl hkey
    · induction hreaches with
      | refl => exact Or.inr .refl
      | @tail a b _ hab ih =>
        by_cases ha : m.types.contains a
        · exact Or.inl (h a b ha hab)
        · exact Or.inr ((ih.resolve_left ha).tail ⟨ha, hab⟩)
  · exact Or.imp_right fun hreaches => hreaches.lift id fun _ _ hstep => hstep.2

end Workspace

namespace Generator

variable {g : Generator} {m₀ m : Memory}

/-! ### The queue -/

theorem drain_located (hm : Registry g.workspace m) (id root : String) : ∃ locations,
    Registry g.workspace { m with locations } ∧ ∀ more queue,
      g.drain more root (id :: queue) m =
        if id = root ∨ (g.workspace.location? id).isSome then
          g.goOn more root queue (g.workspace.register id { m with locations })
        else g.drain more root queue { m with locations } := by
  obtain ⟨locations, hfind, hm'⟩ := hm.tryResolve id
  by_cases hroot : id = root
  · refine ⟨m.locations, hm, fun more queue => ?_⟩
    rw [drain_cons, if_pos hroot, if_pos (Or.inl hroot)]
  · refine ⟨locations, hm', fun more queue => ?_⟩
    rw [drain_cons, if_neg hroot, hfind]
    simp only [hroot, false_or]

/-- **A queue comes to an outcome** by going through it up to the first package that is new and imports
anything, if every way to go on from there does with what is left, for fewer directories. -/
theorem drain_outcome {root home : String} (hroot : g.workspace.location? root = some home)
    (goesOn : (List String → Session Unit) → Prop) {n : ℕ}
    (hmore : ∀ queue m, g.workspace.Pending m₀ home queue m → g.workspace.unregistered m < n →
      ∃ r m', g.workspace.Outcome m₀ home r m' ∧ ∀ more, goesOn more → more queue m = (r, m'))
    (queue : List String) (m : Memory) (hm : g.workspace.Pending m₀ home queue m)
    (hn : g.workspace.unregistered m ≤ n) :
    ∃ r m', g.workspace.Outcome m₀ home r m' ∧
      ∀ more, goesOn more → g.drain more root queue m = (r, m') := by
  induction queue generalizing m with
  | nil => exact ⟨_, m, .done hm, fun _ _ => rfl⟩
  | cons id queue ih =>
    obtain ⟨locations, hm₁, hdrain⟩ := drain_located hm.registry id root
    cases hid : g.workspace.location? id with
    | none =>
      have hskip : ¬(id = root ∨ (g.workspace.location? id).isSome) := by
        rintro (rfl | h)
        · rw [hid] at hroot
          cases hroot
        · rw [hid] at h
          cases h
      simp only [hdrain, if_neg hskip]
      exact ih { m with locations } (hm.drop hid hm₁) hn
    | some location =>
      have hfound : id = root ∨ (g.workspace.location? id).isSome := by simp [hid]
      simp only [hdrain, if_pos hfound]
      rcases hm₁.register hid with
        ⟨ids, m₂, hregister, hm₂, htypes, hids⟩ | ⟨cause, locations', hlist, hnew, hregister, hm₂⟩
      · have hpending := hm.register hid hm₂ htypes hids
        rw [hregister]
        cases ids with
        | nil =>
          rw [List.append_nil] at hpending
          have hkept : ∀ key, m.types.contains key → m₂.types.contains key :=
            fun key hkey => (htypes key).mpr (Or.inr hkey)
          exact ih m₂ hpending ((Workspace.countP_unregistered_le hkept _).trans hn)
        | cons i is =>
          -- only a location that is new answers with imports
          have hnew : ¬m.types.contains location := by
            rcases hids with ⟨-, h⟩ | ⟨h, -⟩
            · cases h
            · exact h
          exact hmore _ m₂ hpending ((Workspace.unregistered_lt hid hnew htypes).trans_le hn)
      · -- the directory cannot be listed
        have hpending : g.workspace.Pending m₀ home (id :: queue)
            { m with locations := locations' } :=
          { hm with registry := hm₂ }
        rw [hregister]
        exact ⟨_, _, .stopped hpending (hm.queued List.mem_cons_self hid) hnew hlist,
          fun _ _ => rfl⟩

/-- With enough rounds a queue comes to an outcome, and more of them change nothing. -/
theorem registerAll_outcome {root home : String} (hroot : g.workspace.location? root = some home)
    (n : ℕ) (queue : List String) (m : Memory) (hm : g.workspace.Pending m₀ home queue m)
    (hn : g.workspace.unregistered m ≤ n) :
    ∃ r m', g.workspace.Outcome m₀ home r m' ∧
      ∀ rounds ≥ n, g.registerAll root rounds queue m = (r, m') := by
  induction n generalizing queue m with
  | zero =>
    obtain ⟨r, m', houtcome, hrun⟩ := drain_outcome hroot (fun _ => True)
      (fun _ _ _ h => absurd h (Nat.not_lt_zero _)) queue m hm hn
    refine ⟨r, m', houtcome, fun rounds _ => ?_⟩
    cases rounds with
    | zero => exact hrun _ trivial
    | succ rounds => exact hrun _ trivial
  | succ n ih =>
    obtain ⟨r, m', houtcome, hrun⟩ := drain_outcome hroot
      (fun more => ∃ rounds ≥ n, more = g.registerAll root rounds)
      (fun queue m hm h => by
        obtain ⟨r, m', houtcome, hrest⟩ := ih queue m hm (Nat.le_of_lt_succ h)
        refine ⟨r, m', houtcome, ?_⟩
        rintro _ ⟨rounds, hrounds, rfl⟩
        exact hrest rounds hrounds) queue m hm hn
    refine ⟨r, m', houtcome, fun rounds hrounds => ?_⟩
    obtain ⟨rounds, rfl⟩ := Nat.exists_eq_succ_of_ne_zero (Nat.ne_zero_of_lt hrounds)
    exact hrun _ ⟨rounds, Nat.le_of_succ_le_succ hrounds, rfl⟩

theorem unregistered_le_directories (w : Workspace) (m : Memory) :
    w.unregistered m ≤ w.files.root.directories := by
  unfold Workspace.unregistered
  rw [← Entry.length_dirPlaces]
  exact List.countP_le_length

/-- With a round for each directory, the queue of a package that is found comes to an outcome. -/
theorem registerAll_found (hm : Registry g.workspace m) {id home : String}
    (hid : g.workspace.location? id = some home) :
    ∃ r m', g.workspace.Outcome m home r m' ∧ ∀ rounds ≥ g.workspace.files.root.directories,
      g.registerAll id rounds [id] m = (r, m') :=
  registerAll_outcome hid _ [id] m (.begin hm hid) (unregistered_le_directories _ m)

theorem registerAll_none (hm : Registry g.workspace m) {id : String}
    (hid : g.workspace.location? id = none) : ∃ locations,
    Registry g.workspace { m with locations } ∧ ∀ rounds,
      g.registerAll id rounds [id] m = (.error (.packageNotFound id), { m with locations }) := by
  obtain ⟨locations, hm₁, hdrain⟩ := drain_located hm id id
  obtain ⟨locations', hregister, hm₂⟩ := hm₁.register_none hid
  refine ⟨locations', hm₂, fun rounds => ?_⟩
  have hrun : ∀ more, g.drain more id [id] m =
      (.error (.packageNotFound id), { m with locations := locations' }) := by
    intro more
    rw [hdrain, if_pos (Or.inl rfl), hregister]
    rfl
  cases rounds with
  | zero => exact hrun _
  | succ rounds => exact hrun _

/-! ### Calls -/

theorem registry_registerTypes (hm : Registry g.workspace m) (id : String) :
    Registry g.workspace (g.registerTypes id m).2 := by
  unfold Generator.registerTypes
  cases hid : g.workspace.location? id with
  | none =>
    obtain ⟨locations, hm, hrun⟩ := registerAll_none hm hid
    rw [hrun]
    exact hm
  | some home =>
    obtain ⟨r, m', houtcome, hrun⟩ := registerAll_found hm hid
    rw [hrun _ le_rfl]
    exact houtcome.registry

theorem locating_scanFrom (entries : List String) (p : Progress) :
    ∃ locations, (g.scanFrom entries p).2.memory = { p.memory with locations } := by
  induction entries generalizing p with
  | nil => exact ⟨p.memory.locations, rfl⟩
  | cons entry entries ih =>
    unfold scanFrom
    split
    · exact ih p
    · obtain ⟨locations, hm⟩ := locating_discover (w := g.workspace) entry p.memory
      rw [run_bind, run_remembering, hm]
      cases (g.workspace.discover entry p.memory).1 with
      | error e => exact ⟨locations, rfl⟩
      | ok ids =>
        dsimp only
        rw [run_bind, run_modify]
        obtain ⟨locations', hrest⟩ := ih
          { p with memory := { p.memory with locations }, scanned := ids.foldl g.addScanned p.scanned }
        exact ⟨locations', hrest⟩

theorem locating_call (p : Progress) {c : Call} (hregister : ∀ id, c ≠ .registerTypes id)
    (hdescribe : ∀ package, c ≠ .describe package) :
    ∃ locations, (g.call p c).memory = { p.memory with locations } := by
  cases c with
  | mainApiFile =>
    show ∃ locations, (g.mainApiFile p).2.memory = { p.memory with locations }
    unfold mainApiFile
    cases g.config.mainApiFile with
    | some path => exact ⟨p.memory.locations, rfl⟩
    | none =>
      cases g.config.apiPackages with
      | nil => exact ⟨p.memory.locations, rfl⟩
      | cons entry entries => exact locating_tryResolve entry p.memory
  | readInfo path =>
    refine ⟨p.memory.locations, ?_⟩
    show (g.readInfo path p).2.memory = p.memory
    unfold readInfo
    cases g.workspace.readFile path <;> rfl
  | scan => exact locating_scanFrom _ p
  | registerTypes id => exact absurd rfl (hregister id)
  | describe package => exact absurd rfl (hdescribe package)

theorem registry_call {p : Progress} (h : Registry g.workspace p.memory) {c : Call}
    (hc : ∀ package, c ≠ .describe package) : Registry g.workspace (g.call p c).memory := by
  by_cases hregister : ∃ id, c = .registerTypes id
  · obtain ⟨id, rfl⟩ := hregister
    exact registry_registerTypes h id
  · have hcoherent := (evolves_call h.toCoherent c).coherent
    obtain ⟨locations, hm⟩ := locating_call p (not_exists.mp hregister) hc
    rw [hm] at hcoherent ⊢
    exact h.locate hcoherent

/-- Imports are only recorded with the types, as long as no package is described. -/
theorem registry_after (calls : List Call) (hcalls : ∀ package, Call.describe package ∉ calls) :
    Registry g.workspace (g.after calls).memory := by
  induction calls using List.reverseRecOn with
  | nil => exact registry_empty _
  | append_singleton calls c ih =>
    rw [after, List.foldl_append]
    refine registry_call (ih fun package h => hcalls package (List.mem_append_left _ h)) ?_
    rintro package rfl
    exact hcalls package (List.mem_append_right _ (List.mem_singleton_self _))

/-- No package has been registered up to a directory that cannot be listed. -/
def Unstopped (g : Generator) (calls : List Call) : Prop :=
  ∀ before id after, calls = before ++ .registerTypes id :: after →
    ∀ path cause, (g.registerTypes id (g.after before).memory).1 ≠ .error (.io path cause)

/-- After calls that have not been stopped, nothing is registered without what it imports. -/
theorem closed_after (calls : List Call) (hcalls : ∀ package, Call.describe package ∉ calls)
    (h : g.Unstopped calls) : g.workspace.Closed (g.after calls).memory := by
  induction calls using List.reverseRecOn with
  | nil => exact fun _ _ ha => nomatch ha
  | append_singleton calls c ih =>
    have hbefore : ∀ package, Call.describe package ∉ calls :=
      fun package hmem => hcalls package (List.mem_append_left _ hmem)
    have hclosed := ih hbefore fun before id after hsplit =>
      h before id (after ++ [c]) (by rw [hsplit, List.append_assoc]; rfl)
    have hm := registry_after (g := g) calls hbefore
    rw [after, List.foldl_append]
    by_cases hregister : ∃ id, c = .registerTypes id
    · obtain ⟨id, rfl⟩ := hregister
      have hrun := h calls id [] rfl
      show g.workspace.Closed (g.registerTypes id (g.after calls).memory).2
      unfold Generator.registerTypes at hrun ⊢
      cases hid : g.workspace.location? id with
      | none =>
        obtain ⟨locations, -, hnone⟩ := registerAll_none hm hid
        rw [hnone]
        exact hclosed
      | some home =>
        obtain ⟨r, m', houtcome, hfound⟩ := registerAll_found hm hid
        rw [hfound _ le_rfl] at hrun ⊢
        cases houtcome with
        | done hdone => exact hclosed.of_pending hdone
        | stopped => exact absurd rfl (hrun _ _)
    · have hdescribe : ∀ package, c ≠ .describe package := by
        rintro package rfl
        exact hcalls package (List.mem_append_right _ (List.mem_singleton_self _))
      obtain ⟨locations, hlocating⟩ :=
        locating_call (g.after calls) (not_exists.mp hregister) hdescribe
      show g.workspace.Closed (g.call (g.after calls) c).memory
      rw [hlocating]
      exact hclosed

theorem location?_of_reachesAnew {w : Workspace} {id home key : String}
    (hid : w.location? id = some home) (h : w.ReachesAnew m home key) :
    ∃ id, w.location? id = some key := by
  cases h with
  | refl => exact ⟨id, hid⟩
  | tail _ hstep =>
    obtain ⟨-, path, -, hpath⟩ := hstep
    exact ⟨path, hpath⟩

theorem unstopped_of_isOpen (hopen : g.workspace.files.isOpen) (calls : List Call)
    (hcalls : ∀ package, Call.describe package ∉ calls) : g.Unstopped calls := by
  rintro before id after rfl path cause
  have hm := registry_after (g := g) before fun package h =>
    hcalls package (List.mem_append_left _ h)
  unfold Generator.registerTypes
  cases hid : g.workspace.location? id with
  | none =>
    obtain ⟨locations, -, hnone⟩ := registerAll_none hm hid
    rw [hnone]
    exact fun h => nomatch h
  | some home =>
    obtain ⟨r, m', houtcome, hfound⟩ := registerAll_found hm hid
    rw [hfound _ le_rfl]
    cases houtcome with
    | done => exact fun h => nomatch h
    | stopped _ hreached _ hlist =>
      obtain ⟨id, hid⟩ := location?_of_reachesAnew hid hreached
      exact absurd ⟨id, _, _, hid, hlist, rfl⟩ (Workspace.not_unlisted hopen _)

/-- **Registering the types of a package registers the locations that it reaches**, besides those
that have been registered before, and ends: with as many rounds as there are directories the queue
comes to its end, and more rounds change nothing.  A package that is not found registers nothing.  If a
location that is new cannot be listed, the call fails for one of these, with some of what it reaches
registered; otherwise all that it reaches by the imports of new locations is, and that is all that it
reaches, unless an earlier call has been stopped in this way. -/
theorem registerTypes_reaches (g : Generator) (calls : List Call)
    (hcalls : ∀ package, Call.describe package ∉ calls) (id : String) :
    let w := g.workspace
    let m := (g.after calls).memory
    (∀ id, (w.tryResolve id m).1 = w.location? id) ∧
      (∀ rounds ≥ w.files.root.directories,
        g.registerAll id rounds [id] m = g.registerTypes id m) ∧
      match w.location? id with
      | none => ∃ locations,
          g.registerTypes id m = (.error (.packageNotFound id), { m with locations })
      | some location => ∃ r m', g.registerTypes id m = (r, m') ∧
          (match r with
          | .ok () =>
            (∀ key, w.ReachesAnew m location key → ∃ es, w.files.list key = .ok es) ∧
            ∀ key, m'.types.contains key ↔ m.types.contains key ∨ w.ReachesAnew m location key
          | .error e => ∃ key cause, e = .io key cause ∧ w.files.list key = .error cause ∧
            w.ReachesAnew m location key ∧ ¬m'.types.contains key ∧
            (∀ key, m.types.contains key → m'.types.contains key) ∧
            ∀ key, m'.types.contains key → m.types.contains key ∨ w.ReachesAnew m location key) ∧
          (g.Unstopped calls → ∀ key, m.types.contains key ∨ w.ReachesAnew m location key ↔
            m.types.contains key ∨ w.Reaches location key) := by
  intro w m
  have hm := registry_after (g := g) calls hcalls
  refine ⟨fun id => (gives_tryResolve id m hm.toCoherent).1, ?_⟩
  cases hid : w.location? id with
  | none =>
    obtain ⟨locations, -, hrun⟩ := registerAll_none hm hid
    exact ⟨fun rounds _ => (hrun rounds).trans (hrun _).symm, locations, hrun _⟩
  | some location =>
    obtain ⟨r, m', houtcome, hrun⟩ := registerAll_found hm hid
    refine ⟨fun rounds hrounds => (hrun rounds hrounds).trans (hrun _ le_rfl).symm, r, m',
      hrun _ le_rfl, ?_, fun hunstopped => (closed_after calls hcalls hunstopped).reaches_iff⟩
    cases houtcome with
    | done h =>
      refine ⟨fun key hkey => ?_, h.contains_iff⟩
      obtain ⟨id, hid⟩ := location?_of_reachesAnew hid hkey
      exact h.registry.list_registered hid ((h.contains_iff key).mpr (Or.inr hkey))
    | stopped h hreached hnew hlist =>
      exact ⟨_, _, rfl, hlist, hreached, hnew, fun _ => h.kept, fun _ => h.reached⟩

/-! ### A fair -/

/-- Two packages that import each other, and one that is not there. -/
def fair : Generator where
  workspace :=
    { search := { roots := ["/"] }
      files := { root := .dir [("src", .dir [
        ("fair", .dir [("fair.go", .text "package fair\n\nimport \"stall\"\n")]),
        ("stall", .dir [("stall.go", .text
          "package stall\n\nimport \"fair\"\n\nimport \"gone\"\n")])])] } }

theorem imports_fair {a b : String} (h : fair.workspace.Imports a b) :
    (a = "/src/fair" → b = "/src/stall") ∧ (a = "/src/stall" → b = "/src/fair") := by
  have hfair : fair.workspace.importsAt "/src/fair" = ["stall"] := by decide +kernel
  have hstall : fair.workspace.importsAt "/src/stall" = ["fair", "gone"] := by decide +kernel
  have hlocations : ["fair", "stall", "gone"].map fair.workspace.location? =
      [some "/src/fair", some "/src/stall", none] := by decide +kernel
  simp only [List.map_cons, List.map_nil, List.cons.injEq, and_true] at hlocations
  obtain ⟨hf, hs, hg⟩ := hlocations
  obtain ⟨id, hid, hb⟩ := h
  constructor
  · rintro rfl
    rw [hfair, List.mem_singleton] at hid
    rw [hid, hs] at hb
    exact (Option.some.inj hb).symm
  · rintro rfl
    rw [hstall] at hid
    rcases List.mem_cons.mp hid with rfl | hid
    · exact (Option.some.inj (hf.symm.trans hb)).symm
    · rw [List.mem_singleton.mp hid, hg] at hb
      cases hb

theorem reaches_fair {key : String} :
    fair.workspace.Reaches "/src/fair" key ↔ key = "/src/fair" ∨ key = "/src/stall" := by
  have hstall : fair.workspace.Imports "/src/fair" "/src/stall" :=
    ⟨"stall", by decide +kernel, by decide +kernel⟩
  constructor
  · intro h
    induction h with
    | refl => exact Or.inl rfl
    | tail _ himports ih =>
      rcases ih with rfl | rfl
      · exact Or.inr ((imports_fair himports).1 rfl)
      · exact Or.inl ((imports_fair himports).2 rfl)
  · rintro (rfl | rfl)
    · exact .refl
    · exact .single hstall

/-- After a package that is not there, the fair is registered with its stall. -/
theorem registerTypes_reaches_fair :
    (∀ package, Call.describe package ∉ [Call.scan, .registerTypes "gone"]) ∧
    ∃ m', fair.registerTypes "fair" (fair.after [.scan, .registerTypes "gone"]).memory =
        (.ok (), m') ∧
      ∀ key, m'.types.contains key ↔ key = "/src/fair" ∨ key = "/src/stall" := by
  have hcalls : ∀ package, Call.describe package ∉ [Call.scan, .registerTypes "gone"] := by
    intro package
    simp
  have hlocation : fair.workspace.location? "fair" = some "/src/fair" := by decide +kernel
  have hbefore : (fair.after [.scan, .registerTypes "gone"]).memory.types.entries.isEmpty := by
    decide +kernel
  have hok : (fair.registerTypes "fair" (fair.after [.scan, .registerTypes "gone"]).memory).1 =
      .ok () := except_of_toOption (by decide +kernel)
  refine ⟨hcalls, ?_⟩
  obtain ⟨-, -, h⟩ := registerTypes_reaches fair [.scan, .registerTypes "gone"] hcalls "fair"
  rw [hlocation] at h
  obtain ⟨r, m', hrun, hkeys, hanew⟩ := h
  have hr : r = .ok () := by rw [← hok, hrun]
  subst hr
  refine ⟨m', hrun, fun key => ?_⟩
  have hempty : ¬(fair.after [.scan, .registerTypes "gone"]).memory.types.contains key := by
    unfold KeyMap.contains KeyMap.get?
    rw [List.isEmpty_iff.mp hbefore]
    simp
  rw [hkeys.2, hanew (unstopped_of_isOpen rfl _ hcalls), or_iff_right hempty, reaches_fair]

/-! ### What is left out -/

/-- A package that imports one in a directory that cannot be listed, and another. -/
def outpost : Generator where
  workspace :=
    { search := { roots := ["/"] }
      files :=
        { root := .dir [("src", .dir [
            ("parts", .dir []),
            ("shop", .dir [("shop.go", .text
              "package shop\n\nimport \"stock\"\n\nimport \"parts\"\n")]),
            ("stock", .dir [])])]
          unlisted := [(["src", "stock"], .permissionDenied)] } }

/-- A package with one source, and another. -/
def dock (source : String) : Generator where
  workspace :=
    { search := { roots := ["/"] }
      language := .rust
      files := (({} : FileTree).put ["src", "acme", "models"] (.dir [])).put
        ["src", "shop", "lib.rs"] (.text source) }

/-- **Not all that a package reaches is registered.**  A call that is stopped leaves packages out that
a later one, which is not, does not make up for; and what a source imports that cannot be read does not
count. -/
theorem registerTypes_leaves_out :
    ((outpost.registerTypes "shop" {}).1 = .error (.io "/src/stock" .permissionDenied) ∧
      let m := (outpost.after [.registerTypes "shop"]).memory
      (outpost.registerTypes "shop" m).1 = .ok () ∧
        outpost.workspace.Reaches "/src/shop" "/src/parts" ∧
        ¬(outpost.registerTypes "shop" m).2.types.contains "/src/parts") ∧
    ((dock "use acme::models;\n").registerTypes "shop" {}).1 = .ok () ∧
      ((dock "use acme::models;\n").registerTypes "shop" {}).2.types.keys =
        ["/src/acme/models", "/src/shop"] ∧
      ((dock "use acme::models;\n\nfn broken( \x7b\n").registerTypes "shop" {}).1 = .ok () ∧
      ((dock "use acme::models;\n\nfn broken( \x7b\n").registerTypes "shop" {}).2.types.keys =
        ["/src/shop"] := by
  have hparts : outpost.workspace.Imports "/src/shop" "/src/parts" :=
    ⟨"parts", by decide +kernel, by decide +kernel⟩
  refine ⟨⟨by decide +kernel, except_of_toOption (by decide +kernel),
    .single hparts, by decide +kernel⟩, except_of_toOption (by decide +kernel), by decide +kernel,
    except_of_toOption (by decide +kernel), by decide +kernel⟩

end Generator

end ApiScribe
