import ApiScribe.Proofs.Model.Run
import ApiScribe.Proofs.Model.Scope
import Mathlib.Logic.Relation

/-!
# Building comes to an end

* `Workspace.MissesFrom` — the errors of searches for names that are needed for a name;
* `Ends w n x done r` — from every coherent memory, all of `x` from the `n`-th on come to an end,
  always with the answer `r`;
* `Decided w n x done runs fails` — they end so by a run, or else with an error that may come up;
* `calls_decided` — calls are decided, from the depth that their rank tells;
* `start_eq` — no call is cut off from the start.

The rank of a call is made of two numbers, the first before the second: how many ids are not under
way, and how many are not being merged.  A name behind another name, and a model that is begun, put
an id under way; an embedded type puts an id among those that are merged, while the same types are
under way.
-/

namespace ApiScribe

/-! ### What is needed for a name -/

/-- The names that are searched for when a declaration is built: those of the types that it embeds and
of those that its properties refer to, or that of the type for which it is another name. -/
def Declared.needs (overrides : Overrides) (d : Declared) : List String :=
  match d.decl.kind with
  | .struct fields => fields.filterMap (FieldDecl.embedded? overrides) ++
      (Sketch.ofFields overrides d fields).typeNames
  | _ => match d.role overrides with
    | .follows target => [target]
    | _ => []

section

variable {overrides : Overrides} {d : Declared}

theorem Declared.needs_of_struct {fields : List FieldDecl} (hkind : d.decl.kind = .struct fields) :
    d.needs overrides = fields.filterMap (FieldDecl.embedded? overrides) ++
      (Sketch.ofFields overrides d fields).typeNames := by
  unfold needs
  rw [hkind]

theorem Declared.mem_needs_of_follows {target : String} (h : d.role overrides = .follows target) :
    target ∈ d.needs overrides := by
  unfold needs
  split
  · rename_i hkind
    rw [role_of_kind fun _ h => nomatch hkind.symm.trans h] at h
    cases h
  · rw [h]
    exact List.mem_singleton_self target

end

namespace Workspace

variable (w : Workspace) (overrides : Overrides)

/-- What a name means in a package needs another name, in the package that declares it. -/
def Needs (p q : String × String) : Prop :=
  ∃ d, w.found p.1 p.2 = .ok d ∧ q.1 ∈ d.needs overrides ∧ q.2 = d.package

/-- The search for something that a name in a package needs, or for the name itself, fails with the
error. -/
def MissesFrom (name package : String) (e : Error) : Prop :=
  ∃ q, Relation.ReflTransGen (w.Needs overrides) (name, package) q ∧ w.found q.1 q.2 = .error e

variable {w overrides} {name package : String} {e : Error}

theorem MissesFrom.through {d : Declared} {target : String} (hfound : w.found name package = .ok d)
    (htarget : target ∈ d.needs overrides) (h : w.MissesFrom overrides target d.package e) :
    w.MissesFrom overrides name package e := by
  obtain ⟨q, hpath, hq⟩ := h
  exact ⟨q, .head ⟨d, hfound, htarget, rfl⟩ hpath, hq⟩

/-- From a name that is found, something is missed that its declaration needs. -/
theorem MissesFrom.below {d : Declared} (hfound : w.found name package = .ok d)
    (h : w.MissesFrom overrides name package e) :
    ∃ target ∈ d.needs overrides, w.MissesFrom overrides target d.package e := by
  obtain ⟨q, hpath, hq⟩ := h
  rcases hpath.cases_head with rfl | ⟨⟨target, owner⟩, ⟨d', hd', htarget, howner⟩, hrest⟩
  · cases hfound.symm.trans hq
  · cases hfound.symm.trans hd'
    cases howner
    exact ⟨target, htarget, q, hrest, hq⟩

theorem MissesFrom.misses (h : w.MissesFrom overrides name package e) : w.Misses e := by
  obtain ⟨q, -, hq⟩ := h
  exact ⟨q.1, q.2, hq⟩

end Workspace

namespace Build

/-! ### Coming to an end -/

/-- From every coherent memory all of `x` from the `n`-th on end with the answer `r`, and remember
the same. -/
def Ends (w : Workspace) {α : Type} (n : ℕ) (x : ℕ → Build α) (done : List String)
    (r : Except Error (α × List String)) : Prop :=
  ∀ m, Coherent w m → ∃ m', Coherent w m' ∧ ∀ depth ≥ n, x depth done m = some (r, m')

section

variable {w : Workspace} {α β : Type} {n : ℕ} {done done' : List String}

theorem ends_pure (a : α) : Ends w n (fun _ => pure a) done (.ok (a, done)) :=
  fun m hm => ⟨m, hm, fun _ _ => rfl⟩

theorem search_bind (x : Search α) (f : α → Search β) (m : Memory) :
    (x >>= f) m = (x m).bind fun y => match y with
      | (.ok a, m') => f a m'
      | (.error e, m') => some (.error e, m') := by
  show (x m).bind _ = _
  congr 1
  funext y
  obtain ⟨r, m'⟩ := y
  cases r <;> rfl

theorem build_bind (x : Build α) (f : α → Build β) (done : List String) (m : Memory) :
    (x >>= f) done m = (x done m).bind fun y => match y with
      | (.ok (a, done'), m') => f a done' m'
      | (.error e, m') => some (.error e, m') := by
  show (x done >>= fun p => f p.1 p.2) m = _
  rw [search_bind]
  congr 1
  funext y
  obtain ⟨r, m'⟩ := y
  cases r <;> rfl

theorem Ends.bind {x : ℕ → Build α} {f : ℕ → α → Build β} {a : α}
    {r : Except Error (β × List String)} (hx : Ends w n x done (.ok (a, done')))
    (hf : Ends w n (fun depth => f depth a) done' r) :
    Ends w n (fun depth => x depth >>= f depth) done r := by
  intro m hm
  obtain ⟨m', hm', hrun⟩ := hx m hm
  obtain ⟨m'', hm'', hrest⟩ := hf m' hm'
  refine ⟨m'', hm'', fun depth hn => ?_⟩
  show (x depth >>= f depth) done m = _
  rw [build_bind, hrun depth hn]
  exact hrest depth hn

theorem Ends.bind_error {x : ℕ → Build α} {f : ℕ → α → Build β} {e : Error}
    (hx : Ends w n x done (.error e)) :
    Ends w n (fun depth => x depth >>= f depth) done (.error e) := by
  intro m hm
  obtain ⟨m', hm', hrun⟩ := hx m hm
  refine ⟨m', hm', fun depth hn => ?_⟩
  show (x depth >>= f depth) done m = _
  rw [build_bind, hrun depth hn]
  rfl

theorem Ends.succ {x : ℕ → Build α} {r : Except Error (α × List String)}
    (h : Ends w n (fun depth => x (depth + 1)) done r) : Ends w (n + 1) x done r := by
  intro m hm
  obtain ⟨m', hm', hrun⟩ := h m hm
  refine ⟨m', hm', fun depth hn => ?_⟩
  obtain ⟨depth, rfl⟩ := Nat.exists_eq_add_of_le' (Nat.le_of_add_left_le hn)
  exact hrun depth (Nat.le_of_succ_le_succ hn)

/-- A session within building answers as the session does. -/
theorem build_session (x : Session α) (done : List String) (m : Memory) :
    (liftM x : Build α) done m = some ((x m).1.map fun a => (a, done), (x m).2) := by
  show ((show Search α from fun m => some (x m)) >>= fun a => pure (a, done) :
    Search (α × List String)) m = _
  rw [search_bind, Option.bind_some]
  generalize x m = y
  obtain ⟨r, m'⟩ := y
  cases r <;> rfl

/-- A session within building ends as the session answers. -/
theorem ends_session {x : Session α} {r : Except Error α} (h : Gives (Coherent w) x r) :
    Ends w n (fun _ => (liftM x : Build α)) done (r.map fun a => (a, done)) := by
  intro m hm
  obtain ⟨hr, hm'⟩ := h m hm
  have hrun := build_session x done m
  rw [hr] at hrun
  exact ⟨_, hm', fun _ _ => hrun⟩

theorem ends_get : Ends w n (fun _ => (get : Build (List String))) done (.ok (done, done)) :=
  fun m hm => ⟨m, hm, fun _ _ => rfl⟩

theorem ends_modify (f : List String → List String) :
    Ends w n (fun _ => (modify f : Build PUnit)) done (.ok (⟨⟩, f done)) :=
  fun m hm => ⟨m, hm, fun _ _ => rfl⟩

end

/-! ### Either way -/

/-- All of `x` from the `n`-th on end alike, either by a run or with an error that may come up. -/
def Decided (w : Workspace) {α : Type} (n : ℕ) (x : ℕ → Build α) (done : List String)
    (runs : α → List String → Prop) (fails : Error → Prop) : Prop :=
  (∃ a done', runs a done' ∧ Ends w n x done (.ok (a, done'))) ∨
    ∃ e, fails e ∧ Ends w n x done (.error e)

section

variable {w : Workspace} {α β : Type} {n : ℕ} {done : List String} {fails fails' : Error → Prop}

theorem Decided.pure {a : α} {runs : α → List String → Prop} (h : runs a done) :
    Decided w n (fun _ => Pure.pure a) done runs fails :=
  Or.inl ⟨a, done, h, ends_pure a⟩

theorem Decided.bind {x : ℕ → Build α} {f : ℕ → α → Build β} {runs : α → List String → Prop}
    {runs' : β → List String → Prop} (hx : Decided w n x done runs fails)
    (hf : ∀ a done', runs a done' → Decided w n (fun depth => f depth a) done' runs' fails) :
    Decided w n (fun depth => x depth >>= f depth) done runs' fails := by
  rcases hx with ⟨a, done', hrun, hx⟩ | ⟨e, hfails, he⟩
  · rcases hf a done' hrun with ⟨b, done'', hrun', hfa⟩ | ⟨e, hfails, he⟩
    · exact Or.inl ⟨b, done'', hrun', hx.bind hfa⟩
    · exact Or.inr ⟨e, hfails, hx.bind he⟩
  · exact Or.inr ⟨e, hfails, he.bind_error⟩

theorem Decided.imp {x : ℕ → Build α} {runs runs' : α → List String → Prop}
    (hx : Decided w n x done runs fails) (h : ∀ a done', runs a done' → runs' a done')
    (hfails : ∀ e, fails e → fails' e) : Decided w n x done runs' fails' := by
  rcases hx with ⟨a, done', hrun, hx⟩ | ⟨e, he, hx⟩
  · exact Or.inl ⟨a, done', h a done' hrun, hx⟩
  · exact Or.inr ⟨e, hfails e he, hx⟩

theorem Decided.succ {x : ℕ → Build α} {runs : α → List String → Prop}
    (h : Decided w n (fun depth => x (depth + 1)) done runs fails) :
    Decided w (n + 1) x done runs fails := by
  rcases h with ⟨a, done', hrun, hx⟩ | ⟨e, hfails, he⟩
  · exact Or.inl ⟨a, done', hrun, hx.succ⟩
  · exact Or.inr ⟨e, hfails, he.succ⟩

theorem decided_get : Decided w n (fun _ => (get : Build (List String))) done
    (fun a done' => done = a ∧ done = done') fails :=
  Or.inl ⟨done, done, ⟨rfl, rfl⟩, ends_get⟩

theorem decided_modify (f : List String → List String) :
    Decided w n (fun _ => (modify f : Build PUnit)) done (fun _ done' => done' = f done) fails :=
  Or.inl ⟨⟨⟩, f done, rfl, ends_modify f⟩

theorem decided_find {overrides : Overrides} {name package : String} :
    Decided w n (fun _ => (liftM (find w name package) : Build Declared)) done
      (fun d done' => w.found name package = .ok d ∧ done = done')
      (w.MissesFrom overrides name package) := by
  have hgives : Gives (Coherent w) (find w name package) (w.found name package) :=
    Workspace.gives_find name package
  cases hfound : w.found name package with
  | ok d =>
    rw [hfound] at hgives
    exact Or.inl ⟨d, done, ⟨rfl, rfl⟩, ends_session hgives⟩
  | error e =>
    rw [hfound] at hgives
    exact Or.inr ⟨e, ⟨_, .refl, hfound⟩, ends_session hgives⟩

end

/-! ### Ranks -/

/-- How many ids have not been met. -/
def unmet (ids met : List String) : ℕ := (ids.filter (· ∉ met)).length

theorem unmet_le (ids met : List String) : unmet ids met ≤ ids.length :=
  List.length_filter_le _ _

theorem unmet_cons_lt {ids met : List String} {id : String} (h : id ∈ ids) (hnew : id ∉ met) :
    unmet ids (id :: met) < unmet ids met := by
  have hfilter : ids.filter (· ∉ id :: met) = (ids.filter (· ∉ met)).filter (· ≠ id) := by
    rw [List.filter_filter]
    congr 1
    funext x
    simp [List.mem_cons]
  unfold unmet
  rw [hfilter]
  refine List.length_filter_lt_length_iff_exists.mpr ⟨id, ?_, by simp⟩
  exact List.mem_filter.mpr ⟨h, by simpa using hnew⟩

section

variable (ids : List String) (trail : Trail)

/-- The rank of the resolution of a name. -/
def resolveRank : ℕ := unmet ids trail.inProgress * (ids.length + 1)

/-- The rank of an embedded type, and of a model that is built. -/
def embedRank : ℕ := resolveRank ids trail + unmet ids trail.embedding

variable {ids trail} {d : Declared}

theorem resolveRank_le_embedRank : resolveRank ids trail ≤ embedRank ids trail :=
  Nat.le_add_right _ _

/-- One id more under way outweighs all ids that can be merged. -/
theorem rank_under_way (h : d.modelId ∈ ids) (hnew : d.modelId ∉ trail.inProgress) :
    unmet ids (d.modelId :: trail.inProgress) * (ids.length + 1) + ids.length <
      resolveRank ids trail := by
  have hlt := unmet_cons_lt h hnew
  calc unmet ids (d.modelId :: trail.inProgress) * (ids.length + 1) + ids.length
      < (unmet ids (d.modelId :: trail.inProgress) + 1) * (ids.length + 1) := by
        rw [Nat.add_mul]
        omega
    _ ≤ unmet ids trail.inProgress * (ids.length + 1) := Nat.mul_le_mul_right _ hlt

theorem resolveRank_follow_lt (h : d.modelId ∈ ids) (hnew : d.modelId ∉ trail.inProgress) :
    resolveRank ids (trail.follow d) < resolveRank ids trail :=
  Nat.lt_of_le_of_lt (Nat.le_add_right _ _) (rank_under_way h hnew)

theorem embedRank_enter_lt (h : d.modelId ∈ ids) (hnew : d.modelId ∉ trail.inProgress) :
    embedRank ids (trail.enter d) < resolveRank ids trail :=
  Nat.lt_of_le_of_lt (Nat.add_le_add_left (unmet_le _ _) _) (rank_under_way h hnew)

theorem embedRank_embed_lt (h : d.modelId ∈ ids) (hnew : d.modelId ∉ trail.embedding) :
    embedRank ids (trail.embed d) < embedRank ids trail :=
  Nat.add_lt_add_left (unmet_cons_lt h hnew) _

end

/-! ### Every call is decided -/

/-- Calls of a rank below `n` are decided. -/
structure CallsDecided {w : Workspace} {overrides : Overrides} (s : Scope w overrides)
    (n : ℕ) (calls : ℕ → Calls) : Prop where
  resolve : ∀ {trail name package} done, name ∈ s.names → package ∈ s.packages →
    resolveRank s.ids trail < n →
    Decided w n (fun depth => (calls depth).resolve trail name package) done
      (Resolves w overrides trail name package done) (w.MissesFrom overrides name package)
  embed : ∀ {trail name package} done, name ∈ s.names → package ∈ s.packages →
    embedRank s.ids trail < n →
    Decided w n (fun depth => (calls depth).embed trail name package) done
      (Embeds w overrides trail name package done) (w.MissesFrom overrides name package)

section

variable {w : Workspace} {overrides : Overrides} {n : ℕ} {calls : ℕ → Calls} {trail : Trail}
  {fails : Error → Prop}

theorem embedAll_decided {package : String} {fields : List FieldDecl} (done : List String)
    (h : ∀ f ∈ fields, ∀ name, f.embedded? overrides = some name → ∀ done,
      Decided w n (fun depth => (calls depth).embed trail name package) done
        (Embeds w overrides trail name package done) fails) :
    Decided w n (fun depth => embedAll overrides (calls depth) trail package fields) done
      (EmbedsAll w overrides trail package fields done) fails := by
  induction fields generalizing done with
  | nil => exact .pure .nil
  | cons f fs ih =>
    have hrest := fun done => ih done fun g hg => h g (List.mem_cons_of_mem _ hg)
    simp only [embedAll]
    cases hfield : f.embedded? overrides with
    | none => exact (hrest done).imp (fun _ _ hrun => .skip hfield hrun) fun _ he => he
    | some name =>
      refine (h f List.mem_cons_self name hfield done).bind fun found done' hfirst => ?_
      refine (hrest done').bind fun others done'' hothers => ?_
      exact .pure (.field hfield hfirst hothers)

theorem settleAll_decided {package : String} {names : List String} (built : Built)
    (done : List String) (h : ∀ name ∈ names, ∀ done,
      Decided w n (fun depth => (calls depth).resolve trail name package) done
        (Resolves w overrides trail name package done) fails) :
    Decided w n (fun depth => settleAll (calls depth) trail package names built) done
      (SettlesAll w overrides trail package names built done) fails := by
  induction names generalizing built done with
  | nil => exact .pure .nil
  | cons name names ih =>
    have hothers := fun n hn => h n (List.mem_cons_of_mem _ hn)
    simp only [settleAll]
    refine (h name List.mem_cons_self done).bind fun outcome done' hfirst => ?_
    exact (ih _ done' hothers).imp (fun _ _ hrest => .cons hfirst hrest) fun _ he => he

variable {s : Scope w overrides}

theorem expand_decided (h : CallsDecided s n calls) {d : Declared} (done : List String)
    (hp : d.package ∈ s.packages) (hd : ∀ target ∈ d.decl.mentions overrides, target ∈ s.names)
    (hrank : embedRank s.ids trail < n) :
    Decided w n (fun depth => expand overrides (calls depth) trail d) done
      (Expands w overrides trail d done)
      fun e => ∃ target ∈ d.needs overrides, w.MissesFrom overrides target d.package e := by
  unfold expand
  cases hkind : d.decl.kind with
  | struct fields =>
    have hrank' := Nat.lt_of_le_of_lt resolveRank_le_embedRank hrank
    rw [Declared.needs_of_struct hkind]
    refine Decided.bind (embedAll_decided done fun f hf name hname done => ?_)
      fun embedded done' hembedded => ?_
    · have hneeded := List.mem_filterMap.mpr ⟨f, hf, hname⟩
      exact (h.embed done (hd name (mentions_of_embedded hkind hf hname)) hp hrank).imp
        (fun _ _ hrun => hrun) fun _ he => ⟨name, List.mem_append_left _ hneeded, he⟩
    · refine Decided.imp (settleAll_decided _ done' fun name hname done => ?_)
        (fun built done'' hsettled => .struct hkind hembedded hsettled) fun _ he => he
      exact (h.resolve done (hd name (mentions_of_typeName hkind hname)) hp hrank').imp
        (fun _ _ hrun => hrun) fun _ he => ⟨name, List.mem_append_right _ hname, he⟩
  | synonym type => exact .pure (.bare fun fields h => nomatch hkind.symm.trans h)
  | interface => exact .pure (.bare fun fields h => nomatch hkind.symm.trans h)

theorem resolve_decided (h : CallsDecided s n calls) {name package : String} (done : List String)
    (hn : name ∈ s.names) (hp : package ∈ s.packages) (hrank : resolveRank s.ids trail ≤ n) :
    Decided w n (fun depth => resolve w overrides (calls depth) trail name package) done
      (Resolves w overrides trail name package done) (w.MissesFrom overrides name package) := by
  unfold resolve
  cases hname : TypeName.primitive? overrides name with
  | some primitive => exact .pure (.primitive hname)
  | none =>
    refine decided_find.bind ?_
    rintro d _ ⟨hfound, rfl⟩
    refine decided_get.bind ?_
    rintro _ _ ⟨rfl, rfl⟩
    have hown := s.package_mem hn hp hfound
    have hmentions := s.mentions_mem hn hp hfound
    have hid := s.id_mem hn hp hfound
    by_cases hknown : d.modelId ∈ trail.inProgress ∨ d.modelId ∈ done
    · simp only [if_pos hknown]
      exact .pure (.known hname hfound hknown)
    · have hnew : d.modelId ∉ trail.inProgress := fun h => hknown (Or.inl h)
      simp only [if_neg hknown]
      cases hrole : d.role overrides with
      | primitive primitive => exact .pure (.synonym hname hfound hknown hrole)
      | follows target =>
        have ht := hmentions target (mentions_of_follows hrole)
        have hlt := Nat.lt_of_lt_of_le (resolveRank_follow_lt hid hnew) hrank
        exact (h.resolve done ht hown hlt).imp
          (fun _ _ hrest => .follow hname hfound hknown hrole hrest)
          fun _ he => he.through hfound (Declared.mem_needs_of_follows hrole)
      | model =>
        have hlt := Nat.lt_of_lt_of_le (embedRank_enter_lt hid hnew) hrank
        have hexpand := (expand_decided h done hown hmentions hlt).imp (fun _ _ hrun => hrun)
          fun e ⟨target, htarget, he⟩ => he.through hfound htarget
        refine hexpand.bind fun built done' hmodel => ?_
        refine (decided_modify _).bind ?_
        rintro _ _ rfl
        exact .pure (.build hname hfound hknown hrole hmodel)

theorem embed_decided (h : CallsDecided s n calls) {name package : String} (done : List String)
    (hn : name ∈ s.names) (hp : package ∈ s.packages) (hrank : embedRank s.ids trail ≤ n) :
    Decided w n (fun depth => embed w overrides (calls depth) trail name package) done
      (Embeds w overrides trail name package done) (w.MissesFrom overrides name package) := by
  unfold embed
  refine decided_find.bind ?_
  rintro d _ ⟨hfound, rfl⟩
  have hown := s.package_mem hn hp hfound
  have hmentions := s.mentions_mem hn hp hfound
  by_cases hknown : d.modelId ∈ trail.embedding
  · simp only [if_pos hknown]
    exact .pure (.known hfound hknown)
  · have hlt := Nat.lt_of_lt_of_le (embedRank_embed_lt (s.id_mem hn hp hfound) hknown) hrank
    have hexpand := (expand_decided h done hown hmentions hlt).imp (fun _ _ hrun => hrun)
      fun e ⟨target, htarget, he⟩ => he.through hfound htarget
    simp only [if_neg hknown]
    cases hkind : d.decl.kind with
    | synonym type =>
      cases hrole : d.role overrides with
      | follows target =>
        have ht := hmentions target (mentions_of_follows hrole)
        exact (h.embed done ht hown hlt).imp (fun _ _ hrest => .follow hfound hknown hrole hrest)
          fun _ he => he.through hfound (Declared.mem_needs_of_follows hrole)
      | primitive primitive =>
        exact .pure (.synonym hfound hknown (fun _ h => nomatch hrole.symm.trans h) hkind)
      | model => exact .pure (.synonym hfound hknown (fun _ h => nomatch hrole.symm.trans h) hkind)
    | struct fields =>
      have hother : ∀ type, d.decl.kind ≠ .synonym type := fun _ h => nomatch hkind.symm.trans h
      rw [Declared.role_of_kind hother]
      refine hexpand.bind fun built done' hmodel => ?_
      exact .pure (.expand hfound hknown hother hmodel)
    | interface =>
      have hother : ∀ type, d.decl.kind ≠ .synonym type := fun _ h => nomatch hkind.symm.trans h
      rw [Declared.role_of_kind hother]
      refine hexpand.bind fun built done' hmodel => ?_
      exact .pure (.expand hfound hknown hother hmodel)

variable (s)

/-- **From the depth that its rank tells, a call comes to an end**, always in the same way. -/
theorem calls_decided (n : ℕ) : CallsDecided s n (callsTo w overrides) := by
  induction n with
  | zero =>
    constructor
    · exact fun _ _ _ hrank => absurd hrank (Nat.not_lt_zero _)
    · exact fun _ _ _ hrank => absurd hrank (Nat.not_lt_zero _)
  | succ n ih =>
    constructor
    · intro trail name package done hn hp hrank
      exact .succ (resolve_decided ih done hn hp (Nat.le_of_lt_succ hrank))
    · intro trail name package done hn hp hrank
      exact .succ (embed_decided ih done hn hp (Nat.le_of_lt_succ hrank))

end

/-! ### From the start -/

section

variable (w : Workspace) (overrides : Overrides)

theorem callsAbove_callsTo (n k : ℕ) :
    callsAbove w overrides (callsTo w overrides n) k = callsTo w overrides (n + k) := by
  induction k with
  | zero => rfl
  | succ k ih =>
    show Calls.mk (resolve w overrides _) (embed w overrides _) = _
    rw [ih]
    rfl

theorem run'_eq {α : Type} (x : Build α) (done : List String) (m : Memory) :
    x.run' done m = (x done m).map fun y => (y.1.map Prod.fst, y.2) := by
  show (x done m).bind _ = _
  cases x done m with
  | none => rfl
  | some y =>
    obtain ⟨r, m'⟩ := y
    cases r <;> rfl

variable (name package : String)

/-- The depth to which calls are unrolled from the start is enough. -/
theorem start_resolve_decided :
    Decided w (w.depthFrom overrides [name] package)
      (fun depth => (callsTo w overrides depth).resolve {} name package) []
      (Resolves w overrides {} name package []) (w.MissesFrom overrides name package) := by
  have hname : name ∈ (w.scope overrides [name] package).names :=
    Workspace.name_mem_scope package (List.mem_singleton_self name)
  refine (calls_decided _ _).resolve [] hname (Workspace.package_mem_scope _) ?_
  exact Nat.lt_succ_of_le (Nat.mul_le_mul_right _ (unmet_le _ _))

variable {w overrides name package}

theorem Ends.of_start {r : Except Error (Outcome × List String)}
    (h : Ends w (w.depthFrom overrides [name] package)
      (fun depth => (callsTo w overrides depth).resolve {} name package) [] r) {m : Memory}
    (hm : Coherent w m) :
    (start w overrides name package m).1 = r.map Prod.fst ∧
      Coherent w (start w overrides name package m).2 ∧
      ∀ depth ≥ w.depthFrom overrides [name] package,
        ((callsTo w overrides depth).resolve {} name package).run' [] m =
          some (start w overrides name package m) := by
  obtain ⟨m', hm', hrun⟩ := h m hm
  have hdeep : ∀ depth ≥ w.depthFrom overrides [name] package,
      ((callsTo w overrides depth).resolve {} name package).run' [] m =
        some (r.map Prod.fst, m') := by
    intro depth hdepth
    rw [run'_eq]
    exact congrArg (Option.map _) (hrun depth hdepth)
  have hstart : start w overrides name package m = (r.map Prod.fst, m') := by
    show ((((callsAbove w overrides (callsTo w overrides _) 1000).resolve {} name package).run' []
      m).getD _) = _
    rw [callsAbove_callsTo, hdeep _ (Nat.le_add_right _ 1000)]
    rfl
  rw [hstart]
  exact ⟨rfl, hm', hdeep⟩

variable (w overrides name package)

/-- Either a run succeeds, and it is the answer, or the error of a search is, for the name or for what
it needs. -/
theorem start_decided :
    (∃ outcome done, Resolves w overrides {} name package [] outcome done ∧
      Gives (Coherent w) (start w overrides name package) (.ok outcome)) ∨
    ∃ e, w.MissesFrom overrides name package e ∧
      Gives (Coherent w) (start w overrides name package) (.error e) := by
  rcases start_resolve_decided w overrides name package with
    ⟨outcome, done, hrun, h⟩ | ⟨e, hmiss, he⟩
  · exact Or.inl ⟨outcome, done, hrun, fun m hm => ⟨(h.of_start hm).1, (h.of_start hm).2.1⟩⟩
  · exact Or.inr ⟨e, hmiss, fun m hm => ⟨(he.of_start hm).1, (he.of_start hm).2.1⟩⟩

theorem start_hasAnswer : HasAnswer (Coherent w) (start w overrides name package) := by
  rcases start_decided w overrides name package with ⟨outcome, _, _, h⟩ | ⟨e, -, h⟩
  · exact ⟨_, h⟩
  · exact ⟨_, h⟩

/-- What is answered from the start is what deeper calls answer too. -/
theorem start_eq {m : Memory} (hm : Coherent w m) {depth : ℕ}
    (hdepth : w.depthFrom overrides [name] package ≤ depth) :
    ((callsTo w overrides depth).resolve {} name package).run' [] m =
      some (start w overrides name package m) := by
  rcases start_resolve_decided w overrides name package with ⟨_, _, _, h⟩ | ⟨_, _, h⟩
  · exact (h.of_start hm).2.2 depth hdepth
  · exact (h.of_start hm).2.2 depth hdepth

end

end Build

end ApiScribe
