import ApiScribe.Proofs.Generation.Steps

/-!
# Two runs side by side

Two runs that have come equally far have the same document and the same packages, whatever each of
them remembers, as long as that agrees with the files (`Like`).  From there, parts of runs that are
`Alike` give the same answer and stay equally far.  Describing a package is alike itself
(`alike_describe`), and two ways of describing give the same document if they are alike for every
package (`documentBy_congr`).
-/

namespace ApiScribe.Generator

variable {g : Generator} {α β : Type}

/-- Two runs have come equally far. -/
structure Like (g : Generator) (p q : Progress) : Prop where
  left : Coherent g.workspace p.memory
  right : Coherent g.workspace q.memory
  document : p.document = q.document
  scanned : p.scanned = q.scanned

/-- From equally far, two parts of runs give the same answer and stay equally far. -/
def Alike (g : Generator) (x y : Run α) : Prop :=
  ∀ p q, g.Like p q → (x p).1 = (y q).1 ∧ g.Like (x p).2 (y q).2

theorem Like.memory {p q : Progress} {m m' : Memory} (h : g.Like p q)
    (hm : Coherent g.workspace m) (hm' : Coherent g.workspace m') :
    g.Like { p with memory := m } { q with memory := m' } where
  left := hm
  right := hm'
  document := h.document
  scanned := h.scanned

theorem alike_pure (a : α) : g.Alike (pure a : Run α) (pure a) := fun _ _ h => ⟨rfl, h⟩

theorem alike_throw (e : Error) : g.Alike (throw e : Run α) (throw e) := fun _ _ h => ⟨rfl, h⟩

theorem Alike.bind {x x' : Run α} {f f' : α → Run β} (hx : g.Alike x x')
    (hf : ∀ a, g.Alike (f a) (f' a)) : g.Alike (x >>= f) (x' >>= f') := by
  intro p q h
  obtain ⟨hanswer, hlike⟩ := hx p q h
  rw [run_bind, run_bind]
  generalize x p = y at hanswer hlike ⊢
  generalize x' q = y' at hanswer hlike ⊢
  obtain ⟨r, p'⟩ := y
  obtain ⟨r', q'⟩ := y'
  cases hanswer
  cases r with
  | error e => exact ⟨rfl, hlike⟩
  | ok a => exact hf a p' q' hlike

theorem alike_modify (change : Document → Document) :
    g.Alike (modify fun p => { p with document := change p.document } : Run PUnit)
      (modify fun p => { p with document := change p.document }) := fun _ _ h =>
  ⟨rfl, h.left, h.right, congrArg change h.document, h.scanned⟩

theorem alike_remembering {x : Session α} (h : HasAnswer (Coherent g.workspace) x) :
    g.Alike (Run.remembering x) (Run.remembering x) := fun _ _ hlike =>
  ⟨h.eq hlike.left hlike.right, hlike.memory (h.coherent hlike.left) (h.coherent hlike.right)⟩

/-! ### Reading functions -/

theorem alike_record (package : ScannedPackage) (f : FunctionDecl)
    (result : Except Error Unit × Draft) :
    g.Alike (g.record package f result) (g.record package f result) := by
  unfold record
  split
  · split
    · exact alike_pure ()
    · intro p q h
      rw [run_change, run_change, h.document]
      exact ⟨rfl, h.left, h.right, rfl, h.scanned⟩
  · exact alike_pure ()
  · dsimp only
    split
    · exact alike_throw _
    · exact alike_pure ()

theorem alike_describeFunction (package : ScannedPackage) (f : FunctionDecl) :
    g.Alike (g.describeFunction package f) (g.describeFunction package f) := by
  obtain ⟨draft, hgives⟩ := gives_readComment g package f
  exact (alike_remembering ⟨_, hgives.lift⟩).bind fun result => alike_record package f result

/-- If single functions are read alike, and the same ones, then all are. -/
theorem alike_describeFunctions {package : ScannedPackage} {change : FunctionDecl → FunctionDecl}
    (hcontroller : ∀ f, g.isController (change f) = g.isController f)
    (h : ∀ f, g.isController f →
      g.Alike (g.describeFunction package f) (g.describeFunction package (change f)))
    (fs : List FunctionDecl) :
    g.Alike (g.describeFunctions package fs) (g.describeFunctions package (fs.map change)) := by
  induction fs with
  | nil => exact alike_pure ()
  | cons f fs ih =>
    rw [List.map_cons]
    unfold describeFunctions
    rw [hcontroller]
    split
    · exact (h f ‹_›).bind fun _ => ih
    · exact ih

/-! ### Loading sources -/

open Workspace

/-- The sources of a package with no regard to their paths, read off the files. -/
def sources (g : Generator) (package : ScannedPackage) : Except Error (List SourceUnit) :=
  match g.workspace.location? package.id with
  | none => .error (.packageNotFound package.id)
  | some location => (g.workspace.readPackage location).map unplaced

/-- **But for the paths, the same sources are loaded whatever has been asked before.** -/
theorem load_apply (package : ScannedPackage) {p : Progress} (hp : Coherent g.workspace p.memory) :
    ∃ r memory, g.load package p = (r, { p with memory }) ∧ Coherent g.workspace memory ∧
      r.map unplaced = g.sources package := by
  obtain ⟨hr, hm⟩ := gives_resolve package.id p.memory hp
  unfold load sources
  rw [run_remembering, session_bind]
  generalize g.workspace.resolve package.id p.memory = y at hr hm ⊢
  obtain ⟨r, m⟩ := y
  dsimp only at hr hm ⊢
  cases hlocation : g.workspace.location? package.id with
  | none =>
    rw [hlocation] at hr
    cases hr
    exact ⟨_, m, rfl, hm, rfl⟩
  | some location =>
    rw [hlocation] at hr
    cases hr
    dsimp only
    have hload := Coherent.loadPackage hm location
    rcases hm.toSound.loadPackage location with ⟨e, hread, hrun⟩ | ⟨us, units, hus, hrun, -⟩
    · rw [hrun] at hload ⊢
      exact ⟨.error e, m, rfl, hload, by rw [hread]⟩
    · rw [hrun] at hload ⊢
      obtain ⟨us', hread, heq⟩ := hus.readPackage
      refine ⟨.ok us, _, rfl, hload, ?_⟩
      rw [hread]
      exact congrArg Except.ok heq.symm

theorem functions_unplaced (us : List SourceUnit) :
    us.flatMap (·.functions) = (unplaced us).flatMap (·.functions) := by
  rw [unplaced, List.flatMap_map]
  rfl

theorem comments_unplaced (us : List SourceUnit) :
    us.flatMap (·.comments) = (unplaced us).flatMap (·.comments) := by
  rw [unplaced, List.flatMap_map]
  rfl

theorem describeUnits_congr (package : ScannedPackage) {us us' : List SourceUnit}
    (h : unplaced us = unplaced us') : g.describeUnits package us = g.describeUnits package us' := by
  unfold describeUnits
  rw [functions_unplaced, functions_unplaced us', comments_unplaced, comments_unplaced us', h]

/-- Two ways of reading the sources of a package are alike if they are for the same sources. -/
theorem alike_load_bind {package : ScannedPackage} {f f' : List SourceUnit → Run α}
    (hcongr : ∀ us us', unplaced us = unplaced us' → f us = f us')
    (h : ∀ us, g.Alike (f us) (f' us)) :
    g.Alike (g.load package >>= f) (g.load package >>= f') := by
  intro p q hlike
  obtain ⟨r, m, hp, hm, hr⟩ := load_apply package hlike.left
  obtain ⟨r', m', hq, hm', hr'⟩ := load_apply package hlike.right
  have hlike' := hlike.memory hm hm'
  rw [run_bind, run_bind, hp, hq]
  rw [← hr'] at hr
  cases r with
  | error e =>
    cases r' with
    | error e' =>
      cases hr
      exact ⟨rfl, hlike'⟩
    | ok us' => cases hr
  | ok us =>
    cases r' with
    | error e' => cases hr
    | ok us' =>
      dsimp only
      rw [hcongr us us' (Except.ok.inj hr)]
      exact h us' _ _ hlike'

theorem alike_describeUnits {package : ScannedPackage} {change : FunctionDecl → FunctionDecl}
    {us us' : List SourceUnit}
    (hfunctions : us'.flatMap (·.functions) = (us.flatMap (·.functions)).map change)
    (hcomments : us'.flatMap (·.comments) = us.flatMap (·.comments))
    (h : ∀ fs, g.Alike (g.describeFunctions package fs) (g.describeFunctions package (fs.map change))) :
    g.Alike (g.describeUnits package us) (g.describeUnits package us') := by
  unfold describeUnits
  rw [hfunctions, hcomments]
  exact (h _).bind fun _ => alike_modify (List.foldl applyInfoLine · _)

/-- **A package is described the same whatever has been asked before.** -/
theorem alike_describe (package : ScannedPackage) :
    g.Alike (g.describe package) (g.describe package) := by
  have hfunctions : ∀ fs, g.Alike (g.describeFunctions package fs)
      (g.describeFunctions package (fs.map id)) :=
    alike_describeFunctions (fun _ => rfl) fun f _ => alike_describeFunction package f
  exact alike_load_bind (fun _ _ => describeUnits_congr package) fun us =>
    alike_describeUnits (by rw [List.map_id]) rfl hfunctions

/-! ### Documents -/

theorem alike_describeScanned {describe describe' : ScannedPackage → Run Unit}
    (h : ∀ package, g.Alike (describe package) (describe' package))
    (packages : List ScannedPackage) :
    g.Alike (describeScanned describe packages) (describeScanned describe' packages) := by
  induction packages with
  | nil => exact alike_pure ()
  | cons package packages ih => exact (h package).bind fun _ => ih

/-- What a run does before packages are described. -/
def prepare (g : Generator) : Run (List ScannedPackage) := do
  g.readMain
  g.scan
  let scanned := (← get).scanned
  g.registerScanned scanned
  return scanned

theorem runBy_eq (describe : ScannedPackage → Run Unit) :
    g.runBy describe = g.prepare >>= describeScanned describe := by
  unfold runBy readApiBy prepare
  simp only [bind_assoc, pure_bind]

theorem proceeds_prepare : g.Proceeds (fun _ => True) g.prepare :=
  (Proceeds.bind (fun p hp => (proceeds_readMain p hp).mono fun _ _ => trivial) fun _ =>
    proceeds_scan.bind fun _ => proceeds_get.bind fun p =>
      (proceeds_registerScanned p.scanned).bind fun _ => proceeds_pure _)

/-- **Runs that describe packages alike have the same document**, or fail the same. -/
theorem documentBy_congr {describe describe' : ScannedPackage → Run Unit}
    (h : ∀ package, g.Alike (describe package) (describe' package)) :
    g.documentBy describe = g.documentBy describe' := by
  have hstart := (proceeds_prepare (g := g) g.start (coherent_empty _)).coherent
  have hsame : ((g.runBy describe) g.start).1 = ((g.runBy describe') g.start).1 ∧
      ((g.runBy describe) g.start).2.document = ((g.runBy describe') g.start).2.document := by
    rw [runBy_eq, runBy_eq, run_bind, run_bind]
    generalize g.prepare g.start = y at hstart ⊢
    obtain ⟨r, p⟩ := y
    cases r with
    | error e => exact ⟨rfl, rfl⟩
    | ok scanned =>
      have hlike := alike_describeScanned h scanned p p ⟨hstart, hstart, rfl, rfl⟩
      exact ⟨hlike.1, hlike.2.document⟩
  unfold documentBy ExceptT.run
  generalize g.runBy describe g.start = y at hsame ⊢
  generalize g.runBy describe' g.start = y' at hsame ⊢
  obtain ⟨r, p⟩ := y
  obtain ⟨r', p'⟩ := y'
  obtain ⟨hr, hdoc⟩ := hsame
  cases hr
  cases r with
  | error e => rfl
  | ok _ => exact congrArg Except.ok hdoc

end ApiScribe.Generator
