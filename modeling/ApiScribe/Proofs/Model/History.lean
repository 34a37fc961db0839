import ApiScribe.Model.Resolve
import ApiScribe.Proofs.Model.Ending

/-!
# Whatever has been asked before

* `Request` — what can be asked of a workspace, and `Workspace.after` what is remembered then;
* `coherent_after` — it agrees with the files;
* `building_ends` — from there, every call of building comes to an end;
* `answers_after` — from there, names are found and resolved as if nothing had been asked.
-/

namespace ApiScribe

inductive Request where
  | tryResolve (id : String)
  | resolve (id : String)
  | discover (id : String)
  | loadPackage (path : String)
  | recordImports (path : String)
  | register (id : String)
  | findDefinition (name package : String)
  | resolveModel (overrides : Overrides) (name package : String)
  | resolveType (overrides : Overrides) (name package : String)
  deriving Repr

namespace Workspace

variable (w : Workspace)

/-- What is remembered when one more request has been answered, well or with an error. -/
def ask (m : Memory) : Request → Memory
  | .tryResolve id => (w.tryResolve id m).2
  | .resolve id => (w.resolve id m).2
  | .discover id => (w.discover id m).2
  | .loadPackage path => (w.loadPackage path m).2
  | .recordImports path => (w.recordImports path m).2
  | .register id => (w.register id m).2
  | .findDefinition name package => (w.findDefinition name package m).2
  | .resolveModel overrides name package => (w.resolveModel overrides name package m).2
  | .resolveType overrides name package => (w.resolveType overrides name package m).2

/-- What is remembered when some requests have been answered in order. -/
def after (history : List Request) : Memory := history.foldl w.ask {}

end Workspace

variable {w : Workspace}

/-! ### Single requests -/

theorem HasAnswer.coherent {α : Type} {x : Session α} (h : HasAnswer (Coherent w) x) {m : Memory}
    (hm : Coherent w m) : Coherent w (x m).2 := by
  obtain ⟨r, hr⟩ := h
  exact (hr m hm).2

theorem discover_hasAnswer (id : String) : HasAnswer (Coherent w) (w.discover id) :=
  ⟨_, gives_discover id⟩

theorem expand_hasAnswer (overrides : Overrides) (name package : String) :
    HasAnswer (Coherent w) (w.expand overrides name package) := by
  refine (Build.start_hasAnswer w overrides name package).bind fun outcome => ?_
  rcases outcome with ⟨_, _ | d⟩ | d | ⟨model, inner⟩
  · exact ⟨_, gives_throw _⟩
  · exact ⟨_, gives_pure _⟩
  · exact ⟨_, gives_pure _⟩
  · exact ⟨_, gives_pure _⟩

theorem resolveModel_hasAnswer (overrides : Overrides) (name package : String) :
    HasAnswer (Coherent w) (w.resolveModel overrides name package) :=
  (expand_hasAnswer overrides name package).bind fun _ => ⟨_, gives_pure _⟩

theorem resolveType_hasAnswer (overrides : Overrides) (name package : String) :
    HasAnswer (Coherent w) (w.resolveType overrides name package) := by
  refine (Build.start_hasAnswer w overrides name package).bind fun outcome => ?_
  rcases outcome with ⟨_, _⟩ | d | ⟨model, inner⟩
  · exact ⟨_, gives_pure _⟩
  · exact ⟨_, gives_pure _⟩
  · exact ⟨_, gives_pure _⟩

theorem Coherent.loadPackage {m : Memory} (h : Coherent w m) (path : String) :
    Coherent w (w.loadPackage path m).2 := by
  rcases h.toSound.loadPackage path with ⟨e, -, hrun⟩ | ⟨us, units, -, hrun, hsound⟩
  · rw [hrun]
    exact h
  · rw [hrun]
    exact ⟨hsound, h.recorded⟩

theorem Coherent.recordImports {m : Memory} (h : Coherent w m) (path : String) :
    Coherent w (w.recordImports path m).2 := by
  rcases h.toSound.recordImports path with
    ⟨e, -, hrun⟩ | ⟨ids, units, imports, hrun, hsound, -, hkept⟩
  · rw [hrun]
    exact h
  · rw [hrun]
    exact ⟨hsound, fun hkey => hkept _ (h.recorded hkey)⟩

theorem Coherent.register {m : Memory} (h : Coherent w m) (id : String) :
    Coherent w (w.register id m).2 := by
  cases hid : w.location? id with
  | none =>
    obtain ⟨m', hrun, hm'⟩ := h.register_none hid
    rw [hrun]
    exact hm'
  | some location =>
    rcases h.register_some hid with ⟨e, m', -, hrun, hm'⟩ | ⟨us, ids, m', -, hrun, hm', -⟩
    · rw [hrun]
      exact hm'
    · rw [hrun]
      exact hm'

theorem Coherent.ask {m : Memory} (h : Coherent w m) (r : Request) : Coherent w (w.ask m r) := by
  cases r with
  | tryResolve id => exact (gives_tryResolve id m h).2
  | resolve id => exact (gives_resolve id m h).2
  | discover id => exact (discover_hasAnswer id).coherent h
  | loadPackage path => exact h.loadPackage path
  | recordImports path => exact h.recordImports path
  | register id => exact h.register id
  | findDefinition name package => exact (Workspace.gives_findDefinition name package m h).2
  | resolveModel overrides name package =>
    exact (resolveModel_hasAnswer overrides name package).coherent h
  | resolveType overrides name package =>
    exact (resolveType_hasAnswer overrides name package).coherent h

/-! ### Histories -/

/-- **What is remembered agrees with the files**, after any requests. -/
theorem coherent_after (w : Workspace) (history : List Request) :
    Coherent w (w.after history) :=
  List.foldlRecOn (motive := Coherent w) _ _ (coherent_empty w) fun _ hm r _ => hm.ask r

theorem Build.Decided.ends {α : Type} {n : ℕ} {x : ℕ → Build α} {done : List String}
    {runs : α → List String → Prop} {fails : Error → Prop}
    (h : Build.Decided w n x done runs fails) {m : Memory}
    (hm : Coherent w m) : ∃ answer, ∀ depth ≥ n, x depth done m = some answer := by
  rcases h with ⟨a, done', -, h⟩ | ⟨e, -, h⟩
  · obtain ⟨m', -, hx⟩ := h m hm
    exact ⟨_, hx⟩
  · obtain ⟨m', -, hx⟩ := h m hm
    exact ⟨_, hx⟩

/-- **Building comes to an end, with an answer or an error**, for every name, declaration and trail,
however the types of the files refer to and embed each other: from some depth on, deeper calls answer
the same.  From the start, that is the answer. -/
theorem building_ends (w : Workspace) (overrides : Overrides) (history : List Request) :
    (∀ trail name package done, ∃ depth answer, ∀ deeper ≥ depth,
      (Build.callsTo w overrides deeper).resolve trail name package done (w.after history) =
        some answer) ∧
    (∀ trail d done, ∃ depth answer, ∀ deeper ≥ depth,
      Build.expand overrides (Build.callsTo w overrides deeper) trail d done (w.after history) =
        some answer) ∧
    (∀ trail name package done, ∃ depth answer, ∀ deeper ≥ depth,
      (Build.callsTo w overrides deeper).embed trail name package done (w.after history) =
        some answer) ∧
    ∀ name package, ∃ depth, ∀ deeper ≥ depth,
      ((Build.callsTo w overrides deeper).resolve {} name package).run' [] (w.after history) =
        some (Build.start w overrides name package (w.after history)) := by
  have hm := coherent_after w history
  refine ⟨fun trail name package done => ?_, fun trail d done => ?_,
    fun trail name package done => ?_, fun name package => ?_⟩
  · have hname : name ∈ (w.scope overrides [name] package).names :=
      Workspace.name_mem_scope package (List.mem_singleton_self name)
    have hcalls := Build.calls_decided (w.scope overrides [name] package)
    exact ⟨_, ((hcalls _).resolve done hname (Workspace.package_mem_scope _)
      (Nat.lt_succ_self (Build.resolveRank _ trail))).ends hm⟩
  · have hnames : ∀ target ∈ d.decl.mentions overrides,
        target ∈ (w.scope overrides (d.decl.mentions overrides) d.package).names :=
      fun target ht => Workspace.name_mem_scope d.package ht
    have hcalls := Build.calls_decided (w.scope overrides (d.decl.mentions overrides) d.package)
    exact ⟨_, (Build.expand_decided (hcalls _) done (Workspace.package_mem_scope _) hnames
      (Nat.lt_succ_self (Build.embedRank _ trail))).ends hm⟩
  · have hname : name ∈ (w.scope overrides [name] package).names :=
      Workspace.name_mem_scope package (List.mem_singleton_self name)
    have hcalls := Build.calls_decided (w.scope overrides [name] package)
    exact ⟨_, ((hcalls _).embed done hname (Workspace.package_mem_scope _)
      (Nat.lt_succ_self (Build.embedRank _ trail))).ends hm⟩
  · exact ⟨_, fun deeper hdeeper => Build.start_eq w overrides name package hm hdeeper⟩

/-- **Names are found and resolved as if nothing had been asked before**, errors included. -/
theorem answers_after (w : Workspace) (overrides : Overrides) (history : List Request)
    (name package : String) :
    (w.resolveModel overrides name package (w.after history)).1 =
        (w.resolveModel overrides name package {}).1 ∧
      (w.resolveType overrides name package (w.after history)).1 =
        (w.resolveType overrides name package {}).1 ∧
      (w.findDefinition name package (w.after history)).1 =
        (w.findDefinition name package {}).1 := by
  have hm := coherent_after w history
  have hempty := coherent_empty w
  exact ⟨(resolveModel_hasAnswer overrides name package).eq hm hempty,
    (resolveType_hasAnswer overrides name package).eq hm hempty,
    HasAnswer.eq ⟨_, Workspace.gives_findDefinition name package⟩ hm hempty⟩

/-- What a search finds is what the files tell, whatever has been asked before. -/
theorem found_of_findDefinition {history : List Request} {name package : String} {d : Declared}
    (h : (w.findDefinition name package (w.after history)).1 = .ok (d.decl, d.package)) :
    w.found name package = .ok d := by
  have hanswer := (Workspace.gives_findDefinition name package _ (coherent_after w history)).1
  rw [h] at hanswer
  exact Workspace.found_ok.mpr (Packages.find_ok.mp hanswer.symm)

end ApiScribe
