import ApiScribe.Document.Edit
import ApiScribe.Generation.Run
import ApiScribe.Proofs.Model.History
import ApiScribe.Proofs.Operation.Comment
import Mathlib.Data.List.Induction

/-!
# What a run does step by step

`Evolves g allowed p q`: between `p` and `q`, what is remembered has stayed in agreement with the
files, the document has been changed by edits that are `allowed`, and only packages that scanning
finds have been added.  Each part of a run evolves so (`Proceeds`), whether it fails or not: adding
operations and describing resources while packages are read, and everything but adding operations
while the main file is read.  Before that the parts may be called in any order (`Call`), and the
queue of packages to register is taken apart here (`drain_cons`).
-/

namespace ApiScribe

/-! ### Runs -/

section

variable {α β : Type}

theorem run_bind (x : Run α) (f : α → Run β) (p : Progress) :
    (x >>= f) p = match x p with
      | (.ok a, p') => f a p'
      | (.error e, p') => (.error e, p') := by
  rcases h : x p with ⟨e | a, p'⟩
  · exact exceptT_bind_error h
  · exact exceptT_bind_ok h

theorem run_modify (f : Progress → Progress) (p : Progress) :
    (modify f : Run PUnit) p = (.ok ⟨⟩, f p) := rfl

theorem run_remembering (x : Session α) (p : Progress) :
    Run.remembering x p = ((x p.memory).1, { p with memory := (x p.memory).2 }) := rfl

theorem run_change (f : Document → Except Error Document) (p : Progress) :
    Run.change f p = (.ok ⟨⟩, { p with document := (f p.document).toOption.getD p.document }) := by
  unfold Run.change
  rw [run_modify]
  cases f p.document <;> rfl

end

namespace Document.Edit

/-- Edits that describe the document as a whole, or a resource. -/
def Describes (e : Edit) : Prop := ∀ d, e ≠ .add d

/-- Edits that add an operation, or describe a resource. -/
def Collects (e : Edit) : Prop := ∀ line, e ≠ .info line

end Document.Edit

open Document (Edit)

namespace Generator

/-- Scanning finds the package, whatever has been asked before. -/
def Finds (g : Generator) (package : ScannedPackage) : Prop :=
  ∃ entry ∈ g.config.apiPackages, ∃ ids,
    Gives (Coherent g.workspace) (g.workspace.discover entry) (.ok ids) ∧ package.id ∈ ids

/-- From `p` to `q`, a run has gone on as it may. -/
structure Evolves (g : Generator) (allowed : Edit → Prop) (p q : Progress) : Prop where
  coherent : Coherent g.workspace q.memory
  edits : ∃ es : List Edit, (∀ e ∈ es, allowed e) ∧ q.document = es.foldl Document.edit p.document
  scanned : ∀ package ∈ q.scanned, package ∈ p.scanned ∨ g.Finds package

/-- From all that is known, a part of a run goes on as it may. -/
def Proceeds (g : Generator) (allowed : Edit → Prop) {α : Type} (x : Run α) : Prop :=
  ∀ p, Coherent g.workspace p.memory → g.Evolves allowed p (x p).2

variable {g : Generator} {allowed : Edit → Prop} {α β : Type} {p q r : Progress}

theorem Evolves.memory {memory : Memory} (h : Coherent g.workspace memory) :
    g.Evolves allowed p { p with memory } where
  coherent := h
  edits := ⟨[], fun _ he => absurd he List.not_mem_nil, rfl⟩
  scanned := fun _ h => Or.inl h

theorem Evolves.refl (h : Coherent g.workspace p.memory) : g.Evolves allowed p p := .memory h

theorem Evolves.trans (h : g.Evolves allowed p q) (h' : g.Evolves allowed q r) :
    g.Evolves allowed p r where
  coherent := h'.coherent
  edits := by
    obtain ⟨es, hes, hdoc⟩ := h.edits
    obtain ⟨es', hes', hdoc'⟩ := h'.edits
    refine ⟨es ++ es', fun e he => (List.mem_append.mp he).elim (hes e) (hes' e), ?_⟩
    rw [hdoc', hdoc, List.foldl_append]
  scanned := fun package hr => (h'.scanned package hr).elim (h.scanned package) Or.inr

theorem Evolves.document (es : List Edit) (h : Coherent g.workspace p.memory)
    (hes : ∀ e ∈ es, allowed e) :
    g.Evolves allowed p { p with document := es.foldl Document.edit p.document } where
  coherent := h
  edits := ⟨es, hes, rfl⟩
  scanned := fun _ h => Or.inl h

theorem Evolves.mono {allowed' : Edit → Prop} (h : g.Evolves allowed p q)
    (himp : ∀ e, allowed e → allowed' e) : g.Evolves allowed' p q where
  coherent := h.coherent
  edits := by
    obtain ⟨es, hes, hdoc⟩ := h.edits
    exact ⟨es, fun e he => himp e (hes e he), hdoc⟩
  scanned := h.scanned

theorem proceeds_pure (a : α) : g.Proceeds allowed (pure a : Run α) := fun _ hp => .refl hp

theorem proceeds_throw (e : Error) : g.Proceeds allowed (throw e : Run α) := fun _ hp => .refl hp

theorem Proceeds.bind {x : Run α} {f : α → Run β} (hx : g.Proceeds allowed x)
    (hf : ∀ a, g.Proceeds allowed (f a)) : g.Proceeds allowed (x >>= f) := by
  intro p hp
  have hstep := hx p hp
  rw [run_bind]
  generalize x p = y at hstep ⊢
  obtain ⟨r, q⟩ := y
  cases r with
  | error e => exact hstep
  | ok a => exact hstep.trans (hf a q hstep.coherent)

theorem proceeds_get : g.Proceeds allowed (get : Run Progress) := fun _ hp => .refl hp

theorem proceeds_remembering {x : Session α}
    (h : ∀ m, Coherent g.workspace m → Coherent g.workspace (x m).2) :
    g.Proceeds allowed (Run.remembering x) := by
  intro p hp
  rw [run_remembering]
  exact .memory (h _ hp)

/-! ### The main file -/

/-- The edit that a comment line of the main file stands for. -/
def lineEdit (line : String) : Edit := if isSubApi line then .subApi line else .info line

theorem edit_lineEdit (doc : Document) (line : String) :
    doc.edit (lineEdit line) = applyInfoLine doc line := by
  unfold lineEdit applyInfoLine
  split
  · show (doc.applySubApi line).toOption.getD doc = _
    cases doc.applySubApi line <;> rfl
  · rfl

theorem foldl_applyInfoLine (lines : List String) (doc : Document) :
    lines.foldl applyInfoLine doc = (lines.map lineEdit).foldl Document.edit doc := by
  rw [List.foldl_map]
  simp only [edit_lineEdit]

theorem describes_lineEdit (line : String) : (lineEdit line).Describes := by
  intro d h
  unfold lineEdit at h
  split at h <;> cases h

theorem proceeds_readInfo (path : String) : g.Proceeds Edit.Describes (g.readInfo path) := by
  unfold readInfo
  cases g.workspace.readFile path with
  | error e => exact proceeds_throw e
  | ok u =>
    intro p hp
    dsimp only
    rw [run_modify, foldl_applyInfoLine]
    refine .document _ hp fun e he => ?_
    obtain ⟨line, -, rfl⟩ := List.mem_map.mp he
    exact describes_lineEdit line

theorem mainApiFile_progress (p : Progress) (hp : Coherent g.workspace p.memory) :
    ∃ memory, (g.mainApiFile p).2 = { p with memory } ∧ Coherent g.workspace memory := by
  unfold mainApiFile
  cases g.config.mainApiFile with
  | some path => exact ⟨p.memory, rfl, hp⟩
  | none =>
    cases g.config.apiPackages with
    | nil => exact ⟨p.memory, rfl, hp⟩
    | cons entry entries => exact ⟨_, rfl, (gives_tryResolve entry p.memory hp).2⟩

theorem proceeds_readMain : g.Proceeds Edit.Describes g.readMain := by
  refine Proceeds.bind (fun p hp => ?_) fun path => ?_
  · obtain ⟨memory, hq, hmemory⟩ := mainApiFile_progress p hp
    show g.Evolves _ p (g.mainApiFile p).2
    rw [hq]
    exact .memory hmemory
  · cases path with
    | none => exact proceeds_pure ()
    | some path => exact proceeds_readInfo path

/-! ### Scanning -/

theorem mem_addScanned {scanned : List ScannedPackage} {id : String} {package : ScannedPackage}
    (h : package ∈ g.addScanned scanned id) : package ∈ scanned ∨ package.id = id := by
  unfold addScanned at h
  split at h
  · exact Or.inl h
  · exact (List.mem_append.mp h).imp_right fun h => by rw [List.mem_singleton.mp h]

theorem mem_foldl_addScanned {ids : List String} {scanned : List ScannedPackage}
    {package : ScannedPackage} (h : package ∈ ids.foldl g.addScanned scanned) :
    package ∈ scanned ∨ package.id ∈ ids := by
  induction ids generalizing scanned with
  | nil => exact Or.inl h
  | cons id ids ih =>
    rcases ih h with h | h
    · exact (mem_addScanned h).imp_right fun h => List.mem_cons.mpr (Or.inl h)
    · exact Or.inr (List.mem_cons_of_mem _ h)

theorem proceeds_scanFrom {entries : List String}
    (h : ∀ entry ∈ entries, entry ∈ g.config.apiPackages) :
    g.Proceeds allowed (g.scanFrom entries) := by
  induction entries with
  | nil => exact proceeds_pure ()
  | cons entry entries ih =>
    have hrest := ih fun e he => h e (List.mem_cons_of_mem _ he)
    unfold scanFrom
    split
    · exact hrest
    · obtain ⟨answer, hgives⟩ := discover_hasAnswer (w := g.workspace) entry
      intro p hp
      obtain ⟨hr, hm⟩ := hgives p.memory hp
      rw [run_bind, run_remembering, hr]
      have hstep : g.Evolves allowed p
          { p with memory := (g.workspace.discover entry p.memory).2 } := .memory hm
      cases answer with
      | error e => exact hstep
      | ok ids =>
        refine hstep.trans (Proceeds.bind (fun q hq => ?_) (fun _ => hrest) _ hm)
        rw [run_modify]
        refine ⟨hq, (Evolves.refl hq).edits, fun package hmem => ?_⟩
        exact (mem_foldl_addScanned hmem).imp_right fun hid =>
          ⟨entry, h entry List.mem_cons_self, ids, hgives, hid⟩

theorem proceeds_scan : g.Proceeds allowed g.scan := proceeds_scanFrom fun _ h => h

/-! ### Registering types -/

theorem coherent_session_bind {x : Session α} {f : α → Session β} {w : Workspace}
    (hx : ∀ m, Coherent w m → Coherent w (x m).2)
    (hf : ∀ a m, Coherent w m → Coherent w (f a m).2) (m : Memory) (hm : Coherent w m) :
    Coherent w ((x >>= f) m).2 := by
  have hstep := hx m hm
  rw [session_bind]
  generalize x m = y at hstep ⊢
  obtain ⟨r, m'⟩ := y
  cases r with
  | error e => exact hstep
  | ok a => exact hf a m' hstep

/-- How a queue goes on when a package has been registered. -/
def goOn (g : Generator) (more : List String → Session Unit) (root : String) (queue : List String) :
    Except Error (List String) × Memory → Except Error Unit × Memory
  | (.error e, m) => (.error e, m)
  | (.ok [], m) => g.drain more root queue m
  | (.ok (i :: is), m) => more (queue ++ i :: is) m

theorem drain_step (more : List String → Session Unit) (root : String) (queue : List String)
    (found : Bool) (id : String) (m : Memory) :
    (if !found then g.drain more root queue
      else g.workspace.register id >>= fun imports => match imports with
        | [] => g.drain more root queue
        | imports => more (queue ++ imports) : Session Unit) m =
      if found then g.goOn more root queue (g.workspace.register id m)
      else g.drain more root queue m := by
  cases found with
  | false => rfl
  | true =>
    rw [if_neg (by simp), if_pos rfl]
    rcases hrun : g.workspace.register id m with ⟨e | (_ | ⟨i, is⟩), m'⟩
    · exact exceptT_bind_error hrun
    · exact exceptT_bind_ok hrun
    · exact exceptT_bind_ok hrun

/-- One package of the queue: unless it is the first of all it is looked up, and if it is found, it is
registered. -/
theorem drain_cons (more : List String → Session Unit) (root id : String) (queue : List String)
    (m : Memory) :
    g.drain more root (id :: queue) m =
      if id = root then g.goOn more root queue (g.workspace.register id m)
      else if (g.workspace.tryResolve id m).1.isSome then
        g.goOn more root queue (g.workspace.register id (g.workspace.tryResolve id m).2)
      else g.drain more root queue (g.workspace.tryResolve id m).2 := by
  by_cases hroot : id = root
  · rw [if_pos hroot, drain, if_pos hroot]
    exact drain_step more root queue true id m
  · have hfound : ((·.isSome) <$> (g.workspace.tryResolve id : StateM Memory (Option String)) :
        Session Bool) m = (.ok (g.workspace.tryResolve id m).1.isSome,
          (g.workspace.tryResolve id m).2) := rfl
    rw [if_neg hroot, drain, if_neg hroot]
    exact (exceptT_bind_ok hfound).trans (drain_step more root queue _ id _)

theorem coherent_drain {more : List String → Session Unit}
    (hmore : ∀ queue m, Coherent g.workspace m → Coherent g.workspace (more queue m).2)
    (root : String) (queue : List String) (m : Memory) (hm : Coherent g.workspace m) :
    Coherent g.workspace (g.drain more root queue m).2 := by
  induction queue generalizing m with
  | nil => exact hm
  | cons id queue ih =>
    have hregister : ∀ m, Coherent g.workspace m →
        Coherent g.workspace (g.goOn more root queue (g.workspace.register id m)).2 := by
      intro m hm
      have hm' := hm.register id
      rcases hrun : g.workspace.register id m with ⟨e | (_ | ⟨i, is⟩), m'⟩
      all_goals rw [hrun] at hm'
      · exact hm'
      · exact ih m' hm'
      · exact hmore _ m' hm'
    have hfind := (gives_tryResolve id m hm).2
    rw [drain_cons]
    split
    · exact hregister m hm
    · split
      · exact hregister _ hfind
      · exact ih _ hfind

theorem coherent_registerAll (root : String) (directories : ℕ) (queue : List String) (m : Memory)
    (hm : Coherent g.workspace m) :
    Coherent g.workspace (g.registerAll root directories queue m).2 := by
  induction directories generalizing queue m with
  | zero => exact coherent_drain (fun _ _ hm => hm) root queue m hm
  | succ directories ih => exact coherent_drain ih root queue m hm

theorem proceeds_registerTypes (id : String) :
    g.Proceeds allowed (Run.remembering (g.registerTypes id)) :=
  proceeds_remembering fun m hm => coherent_registerAll id _ _ m hm

theorem proceeds_registerScanned (packages : List ScannedPackage) :
    g.Proceeds allowed (g.registerScanned packages) := by
  induction packages with
  | nil => exact proceeds_pure ()
  | cons package packages ih => exact (proceeds_registerTypes package.id).bind fun _ => ih

/-! ### Describing packages -/

/-- From every package, types are looked up with one answer; only the search for a name can fail. -/
theorem lookupTypes_answered (w : Workspace) (overrides : Overrides) (package : String) :
    (w.lookupTypes overrides).Answered (Coherent w) w.Misses package := by
  intro type
  rcases Build.start_decided w overrides type package with ⟨outcome, -, -, h⟩ | ⟨e, hmiss, h⟩
  · rcases outcome with ⟨_, _⟩ | d | ⟨model, inner⟩
    · exact ⟨_, h.ok_bind (gives_pure _), fun e he => (nomatch he)⟩
    · exact ⟨_, h.ok_bind (gives_pure _), fun e he => (nomatch he)⟩
    · exact ⟨_, h.ok_bind (gives_pure _), fun e he => (nomatch he)⟩
  · exact ⟨_, h.error_bind, fun e' he => by cases he; exact hmiss.misses⟩

/-- **Whatever has been asked before, a comment is read the same.** -/
theorem gives_readComment (g : Generator) (package : ScannedPackage) (f : FunctionDecl) :
    ∃ draft, Gives (Coherent g.workspace) (g.readComment package f)
      (Draft.outcome (g.workspace.lookupTypes g.config.marshalOverrides) package.id false f.doc,
        draft) :=
  Draft.gives_applyComment (lookupTypes_answered _ _ _) (coherent_empty _) f.doc

theorem proceeds_record (package : ScannedPackage) (f : FunctionDecl)
    (result : Except Error Unit × Draft) :
    g.Proceeds Edit.Collects (g.record package f result) := by
  unfold record
  split
  · rename_i draft
    split
    · exact proceeds_pure ()
    · intro p hp
      rw [run_change]
      exact .document [.add draft] hp fun e he line h => by
        rw [List.mem_singleton.mp he] at h
        cases h
  · exact proceeds_pure ()
  · dsimp only
    split
    · exact proceeds_throw _
    · exact proceeds_pure ()

theorem proceeds_describeFunction (package : ScannedPackage) (f : FunctionDecl) :
    g.Proceeds Edit.Collects (g.describeFunction package f) := by
  obtain ⟨draft, hgives⟩ := gives_readComment g package f
  exact (proceeds_remembering fun m hm => (hgives.lift m hm).2).bind fun result =>
    proceeds_record package f result

theorem proceeds_describeFunctions (package : ScannedPackage) (fs : List FunctionDecl) :
    g.Proceeds Edit.Collects (g.describeFunctions package fs) := by
  induction fs with
  | nil => exact proceeds_pure ()
  | cons f fs ih =>
    unfold describeFunctions
    split
    · exact (proceeds_describeFunction package f).bind fun _ => ih
    · exact ih

theorem proceeds_load (package : ScannedPackage) : g.Proceeds allowed (g.load package) :=
  proceeds_remembering fun m hm => coherent_session_bind
    (fun m hm => (gives_resolve package.id m hm).2) (fun location _ hm => hm.loadPackage location)
    m hm

theorem proceeds_describeUnits (package : ScannedPackage) (units : List SourceUnit) :
    g.Proceeds Edit.Collects (g.describeUnits package units) := by
  refine (proceeds_describeFunctions package _).bind fun _ p hp => ?_
  rw [run_modify, foldl_applyInfoLine]
  refine .document _ hp fun e he line h => ?_
  obtain ⟨line, hline, rfl⟩ := List.mem_map.mp he
  unfold lineEdit at h
  rw [if_pos (List.mem_filter.mp hline).2] at h
  cases h

theorem proceeds_describe (package : ScannedPackage) :
    g.Proceeds Edit.Collects (g.describe package) :=
  (proceeds_load package).bind fun units => proceeds_describeUnits package units

theorem proceeds_describeScanned (packages : List ScannedPackage) :
    g.Proceeds Edit.Collects (describeScanned g.describe packages) := by
  induction packages with
  | nil => exact proceeds_pure ()
  | cons package packages ih => exact (proceeds_describe package).bind fun _ => ih

theorem proceeds_readApi : g.Proceeds Edit.Collects g.readApi :=
  proceeds_scan.bind fun _ => proceeds_get.bind fun p =>
    (proceeds_registerScanned p.scanned).bind fun _ => proceeds_describeScanned p.scanned

/-! ### Calls -/

/-- What can be asked of a generator. -/
inductive Call where
  | mainApiFile
  | readInfo (path : String)
  | scan
  | registerTypes (id : String)
  | describe (package : ScannedPackage)
  deriving Repr

variable (g : Generator)

/-- How far a run has come with one more call, well done or failed. -/
def call (p : Progress) : Call → Progress
  | .mainApiFile => (g.mainApiFile p).2
  | .readInfo path => (g.readInfo path p).2
  | .scan => (g.scan p).2
  | .registerTypes id => (Run.remembering (g.registerTypes id) p).2
  | .describe package => (g.describe package p).2

/-- How far a run has come with some calls. -/
def after (calls : List Call) : Progress := calls.foldl g.call g.start

variable {g : Generator}

theorem evolves_call {p : Progress} (hp : Coherent g.workspace p.memory) (c : Call) :
    g.Evolves (fun _ => True) p (g.call p c) := by
  cases c with
  | mainApiFile =>
    obtain ⟨memory, hq, hmemory⟩ := mainApiFile_progress p hp
    show g.Evolves _ p (g.mainApiFile p).2
    rw [hq]
    exact .memory hmemory
  | readInfo path => exact (proceeds_readInfo path p hp).mono fun _ _ => trivial
  | scan => exact proceeds_scan p hp
  | registerTypes id => exact proceeds_registerTypes id p hp
  | describe package => exact (proceeds_describe package p hp).mono fun _ _ => trivial

theorem evolves_after (calls : List Call) : g.Evolves (fun _ => True) g.start (g.after calls) := by
  induction calls using List.reverseRecOn with
  | nil => exact .refl (coherent_empty _)
  | append_singleton calls c ih =>
    rw [after, List.foldl_append]
    exact ih.trans (evolves_call ih.coherent c)

end Generator

end ApiScribe
