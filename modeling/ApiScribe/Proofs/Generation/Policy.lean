import ApiScribe.Proofs.Generation.Alike
import ApiScribe.Proofs.Package.Discovery

/-!
# What a type that is not found costs

In an entry package, or in a strict run, the first function with a comment that names a type that is
not found ends the description of the package.  Elsewhere such a function leaves no trace: the run
goes on as if its comment were empty (`alike_describeSilenced`).  A type in a directory that cannot be
listed ends the description everywhere.

Functions of these kinds are told apart by their comments and their package alone, with nothing asked
before (`isUnresolved`, `isBarred`), since what has been asked changes no answer.
-/

namespace ApiScribe

namespace Generator

/-! ### Comments that fail -/

variable (g : Generator)

/-- What the comment of a function comes to if nothing has been asked before. -/
def commentResult (package : ScannedPackage) (f : FunctionDecl) : Except Error Unit :=
  (g.readComment package f {}).1.1

/-- Functions whose comments are read, and fail because something is not found. -/
def isUnresolved (package : ScannedPackage) (f : FunctionDecl) : Bool :=
  g.isController f && match g.commentResult package f with
    | .error e => e.isResolution
    | .ok () => false

/-- Functions whose comments are read, and fail for another reason. -/
def isBarred (package : ScannedPackage) (f : FunctionDecl) : Bool :=
  g.isController f && match g.commentResult package f with
    | .error e => !e.isResolution && e != .noDirectives
    | .ok () => false

/-- Functions whose comments end the description of a package. -/
def isEnd (package : ScannedPackage) (f : FunctionDecl) : Bool :=
  g.isBarred package f || (g.config.strict || package.isEntry) && g.isUnresolved package f

/-- The error with which a line ends any comment in a package, if it does. -/
def fault? (package : ScannedPackage) (line : String) : Option Error :=
  Draft.fault? (g.workspace.lookupTypes g.config.marshalOverrides) package.id line

variable {g : Generator} {package : ScannedPackage}

theorem commentResult_eq (f : FunctionDecl) : g.commentResult package f =
    Draft.outcome (g.workspace.lookupTypes g.config.marshalOverrides) package.id false f.doc := by
  obtain ⟨draft, hgives⟩ := gives_readComment g package f
  exact congrArg Prod.fst (hgives {} (coherent_empty _)).1

/-- **Whatever has been asked before, a comment comes to the same.** -/
theorem gives_commentResult (package : ScannedPackage) (f : FunctionDecl) :
    ∃ draft, Gives (Coherent g.workspace) (g.readComment package f)
      (g.commentResult package f, draft) := by
  rw [commentResult_eq]
  exact gives_readComment g package f

/-- A comment fails because it holds no directive, or with its first line that names a type that is
not found, or is in a directory that cannot be listed. -/
theorem commentResult_error {f : FunctionDecl} {e : Error}
    (h : g.commentResult package f = .error e) : e = .noDirectives ∨
      ∃ before line after cause, f.doc = before ++ line :: after ∧
        (∀ earlier ∈ before, g.fault? package earlier = none) ∧
        g.fault? package line = some e ∧
        e = .inDirective (Text.trimmed line) cause ∧
        (cause.isResolution ∨ g.workspace.Unlisted cause) := by
  rw [commentResult_eq] at h
  rcases Draft.outcome_error h with he | ⟨before, line, after, hdoc, hbefore, hline⟩
  · exact Or.inl he
  · obtain ⟨cause, rfl, hmiss⟩ :=
      Draft.fault?_error (lookupTypes_answered _ _ _) (coherent_empty _) hline
    exact Or.inr ⟨before, line, after, cause, hdoc, hbefore, hline, rfl,
      Workspace.Misses.isResolution_or hmiss⟩

theorem isUnresolved_eq {f : FunctionDecl} {e : Error} (hread : g.isController f)
    (h : g.commentResult package f = .error e) : g.isUnresolved package f = e.isResolution := by
  rw [isUnresolved, hread, h, Bool.true_and]

theorem isBarred_eq {f : FunctionDecl} {e : Error} (hread : g.isController f)
    (h : g.commentResult package f = .error e) (hdirectives : e ≠ .noDirectives) :
    g.isBarred package f = !e.isResolution := by
  have hne : (e != .noDirectives) = true := by simpa using hdirectives
  rw [isBarred, hread, h, Bool.true_and]
  dsimp only
  rw [hne, Bool.and_true]

theorem isUnresolved_of_isBarred {f : FunctionDecl} (h : g.isBarred package f) :
    g.isUnresolved package f = false := by
  unfold isBarred at h
  unfold isUnresolved
  cases hresult : g.commentResult package f with
  | ok _ => rw [Bool.and_false]
  | error e =>
    rw [hresult] at h
    have hother := (Bool.and_eq_true_iff.mp (Bool.and_eq_true_iff.mp h).2).1
    rw [Bool.not_eq_true'] at hother
    dsimp only
    rw [hother, Bool.and_false]

theorem commentResult_of_isEnd {f : FunctionDecl} (h : g.isEnd package f) :
    ∃ before line after cause, f.doc = before ++ line :: after ∧
      (∀ earlier ∈ before, g.fault? package earlier = none) ∧
      g.fault? package line = some (.inDirective (Text.trimmed line) cause) ∧
      g.commentResult package f = .error (.inDirective (Text.trimmed line) cause) ∧
      cause.isResolution = g.isUnresolved package f ∧
      (g.isUnresolved package f = false → g.workspace.Unlisted cause) := by
  have hread : g.isController f := by
    rcases Bool.or_eq_true_iff.mp h with h | h
    · exact (Bool.and_eq_true_iff.mp h).1
    · exact (Bool.and_eq_true_iff.mp (Bool.and_eq_true_iff.mp h).2).1
  cases hresult : g.commentResult package f with
  | ok _ => simp [isEnd, isBarred, isUnresolved, hresult] at h
  | error e =>
    have hunresolved := isUnresolved_eq hread hresult
    rcases commentResult_error hresult with
      rfl | ⟨before, line, after, cause, hdoc, hbefore, hline, rfl, hcause⟩
    · simp [isEnd, isBarred, isUnresolved, hresult, Error.isResolution] at h
    · refine ⟨before, line, after, cause, hdoc, hbefore, hline, rfl, hunresolved.symm, fun hnot => ?_⟩
      rw [hunresolved] at hnot
      exact hcause.resolve_left (Bool.eq_false_iff.mp hnot)

/-! ### Describing functions -/

theorem describeFunction_apply (package : ScannedPackage) (f : FunctionDecl) {p : Progress}
    (hp : Coherent g.workspace p.memory) : ∃ draft memory, Coherent g.workspace memory ∧
      g.describeFunction package f p =
        g.record package f (g.commentResult package f, draft) { p with memory } := by
  obtain ⟨draft, hgives⟩ := gives_commentResult package f
  obtain ⟨hresult, hm⟩ := hgives.lift p.memory hp
  refine ⟨draft, _, hm, ?_⟩
  unfold describeFunction
  rw [run_bind, run_remembering, hresult]

theorem record_error (f : FunctionDecl) {e : Error} (h : e ≠ .noDirectives) (draft : Draft)
    (p : Progress) : g.record package f (.error e, draft) p =
      (if g.isFatal package (.inFunction f.name package.id e)
        then .error (.inFunction f.name package.id e) else .ok (), p) := by
  have hrecord : g.record package f (.error e, draft) =
      if g.isFatal package (.inFunction f.name package.id e)
        then throw (.inFunction f.name package.id e) else pure () := by
    unfold record
    split
    · rename_i he
      cases he
    · rename_i he
      cases he
      exact absurd rfl h
    · rename_i he
      cases he
      rfl
  rw [hrecord]
  split <;> rfl

/-- A comment that names a type that is not found ends the description, or costs nothing but its
function. -/
theorem describeFunction_unresolved {f : FunctionDecl} (h : g.isUnresolved package f)
    {p : Progress} (hp : Coherent g.workspace p.memory) :
    ∃ e memory, g.commentResult package f = .error e ∧ Coherent g.workspace memory ∧
      g.describeFunction package f p =
        (if g.config.strict || package.isEntry then .error (.inFunction f.name package.id e)
          else .ok (), { p with memory }) := by
  obtain ⟨draft, memory, hm, hrun⟩ := describeFunction_apply package f hp
  unfold isUnresolved at h
  cases hresult : g.commentResult package f with
  | ok _ => simp [hresult] at h
  | error e =>
    have he : e.isResolution := by
      rw [hresult] at h
      exact (Bool.and_eq_true_iff.mp h).2
    have hfatal : g.isFatal package (.inFunction f.name package.id e) =
        (g.config.strict || package.isEntry) := by
      unfold isFatal
      rw [show (Error.inFunction f.name package.id e).isResolution = true from he, Bool.not_true,
        Bool.or_false]
    refine ⟨e, memory, rfl, hm, ?_⟩
    rw [hrun, hresult, record_error f (by rintro rfl; cases he), hfatal]

/-- A comment that is read ends the description, or does not fail it. -/
theorem describeFunction_result {f : FunctionDecl} (hread : g.isController f) {p : Progress}
    (hp : Coherent g.workspace p.memory) :
    if g.isEnd package f then ∃ e, g.commentResult package f = .error e ∧
      (g.describeFunction package f p).1 = .error (.inFunction f.name package.id e)
    else (g.describeFunction package f p).1 = .ok () := by
  obtain ⟨draft, memory, -, hrun⟩ := describeFunction_apply package f hp
  rw [hrun]
  cases hresult : g.commentResult package f with
  | ok _ =>
    rw [if_neg (by simp [isEnd, isBarred, isUnresolved, hresult])]
    unfold record
    dsimp only
    split
    · rfl
    · rw [run_change]
  | error e =>
    by_cases hdirectives : e = .noDirectives
    · subst hdirectives
      rw [if_neg (by simp [isEnd, isBarred, isUnresolved, hresult, Error.isResolution])]
      rfl
    · have hfatal : g.isFatal package (.inFunction f.name package.id e) = g.isEnd package f := by
        have he : (Error.inFunction f.name package.id e).isResolution = e.isResolution := rfl
        rw [isEnd, isBarred_eq hread hresult hdirectives, isUnresolved_eq hread hresult, isFatal, he]
        cases e.isResolution <;> simp
      rw [record_error f hdirectives, hfatal]
      split
      · exact ⟨e, rfl, rfl⟩
      · rfl

theorem describeFunctions_cons (f : FunctionDecl) (fs : List FunctionDecl) :
    g.describeFunctions package (f :: fs) =
      if g.isController f then g.describeFunction package f >>= fun _ => g.describeFunctions package fs
      else g.describeFunctions package fs := by
  rw [describeFunctions]

/-- **The first function whose comment ends the description is what it fails with.** -/
theorem describeFunctions_result (package : ScannedPackage) (fs : List FunctionDecl) {p : Progress}
    (hp : Coherent g.workspace p.memory) :
    match fs.find? (g.isEnd package) with
    | some f => ∃ e, g.commentResult package f = .error e ∧
        (g.describeFunctions package fs p).1 = .error (.inFunction f.name package.id e)
    | none => (g.describeFunctions package fs p).1 = .ok () := by
  induction fs generalizing p with
  | nil => rfl
  | cons f fs ih =>
    rw [describeFunctions_cons]
    cases hread : g.isController f with
    | false =>
      have hf : g.isEnd package f = false := by simp [isEnd, isBarred, isUnresolved, hread]
      rw [List.find?_cons_of_neg (by simp [hf])]
      exact ih hp
    | true =>
      have hresult := @describeFunction_result g package f hread p hp
      have hm := (proceeds_describeFunction package f p hp).coherent
      rw [if_pos rfl, run_bind]
      generalize g.describeFunction package f p = y at hresult hm ⊢
      obtain ⟨r, q⟩ := y
      cases hf : g.isEnd package f with
      | true =>
        rw [hf, if_pos rfl] at hresult
        obtain ⟨e, he, rfl⟩ := hresult
        rw [List.find?_cons_of_pos hf]
        exact ⟨e, he, rfl⟩
      | false =>
        rw [hf, if_neg Bool.false_ne_true] at hresult
        cases hresult
        rw [List.find?_cons_of_neg (by simp [hf])]
        exact ih hm

/-! ### Silence -/

/-- A function with an empty comment, if its comment names a type that is not found. -/
def silence (g : Generator) (package : ScannedPackage) (f : FunctionDecl) : FunctionDecl :=
  if g.isUnresolved package f then { f with doc := [] } else f

/-- Describes a package as if each comment that names a type that is not found were empty. -/
def describeSilenced (g : Generator) (package : ScannedPackage) : Run Unit := do
  let units ← g.load package
  g.describeUnits package
    (units.map fun u => { u with functions := u.functions.map (g.silence package) })

theorem isController_silence (f : FunctionDecl) :
    g.isController (g.silence package f) = g.isController f := by
  unfold silence
  split <;> rfl

/-- Where it ends nothing, a comment that names a type that is not found leaves as little as an empty
one. -/
theorem alike_silence (hends : (g.config.strict || package.isEntry) = false) (f : FunctionDecl) :
    g.Alike (g.describeFunction package f) (g.describeFunction package (g.silence package f)) := by
  unfold silence
  split
  · rename_i hf
    intro p q h
    obtain ⟨e, memory, -, hm, hrun⟩ := describeFunction_unresolved hf h.left
    rw [hrun, hends]
    exact ⟨rfl, h.memory hm h.right⟩
  · exact alike_describeFunction package f

/-- **Where it ends nothing, a comment that names a type that is not found leaves no trace.** -/
theorem alike_describeSilenced (hends : (g.config.strict || package.isEntry) = false) :
    g.Alike (g.describe package) (g.describeSilenced package) := by
  have hfunctions : ∀ fs, g.Alike (g.describeFunctions package fs)
      (g.describeFunctions package (fs.map (g.silence package))) :=
    alike_describeFunctions isController_silence fun f _ => alike_silence hends f
  refine alike_load_bind (fun _ _ => describeUnits_congr package) fun us =>
    alike_describeUnits ?_ ?_ hfunctions
  · rw [List.flatMap_map, List.map_flatMap]
  · rw [List.flatMap_map]

/-! ### Scanned packages -/

theorem ofConfig_ok {config : Config} {files : FileTree} (h : ofConfig config files = .ok g) :
    g.config = config ∧ g.workspace.files = files ∧
      g.workspace.search.entryPackages = config.apiPackages := by
  obtain ⟨ignore, -, h⟩ := except_bind_ok.mp h
  dsimp only at h
  split at h
  · obtain ⟨controller, -, h⟩ := except_bind_ok.mp h
    cases h
    exact ⟨rfl, rfl, rfl⟩
  · cases h
    exact ⟨rfl, rfl, rfl⟩

theorem ofConfig_getD {config : Config} {files : FileTree}
    (h : (ofConfig config files).toOption.isSome) :
    ofConfig config files = .ok ((ofConfig config files).toOption.getD {}) := by
  cases hg : ofConfig config files with
  | error e =>
    rw [hg] at h
    cases h
  | ok g => rfl

theorem Finds.location? (hentries : g.workspace.search.entryPackages = g.config.apiPackages)
    (h : g.Finds package) : ∃ location, g.workspace.location? package.id = some location := by
  obtain ⟨entry, hentry, ids, hgives, hid⟩ := h
  have hcontains : g.workspace.search.entryPackages.contains entry := by
    rw [hentries]
    exact List.contains_iff_mem.mpr hentry
  have hanswer : g.workspace.discovered entry = .ok ids :=
    ((gives_discover entry {} (coherent_empty _)).1).symm.trans (hgives {} (coherent_empty _)).1
  unfold Workspace.discovered at hanswer
  cases hlocation : g.workspace.location? entry with
  | none =>
    rw [hlocation] at hanswer
    cases hanswer
  | some location =>
    rw [hlocation] at hanswer
    obtain ⟨all, hscan, rfl⟩ := except_map_ok.mp hanswer
    exact Workspace.location?_of_scan hcontains hlocation hscan (List.mem_filter.mp hid).1

theorem load_of_finds (hentries : g.workspace.search.entryPackages = g.config.apiPackages)
    (h : g.Finds package) {p : Progress} (hp : Coherent g.workspace p.memory) :
    ∃ r memory, g.load package p = (r, { p with memory }) ∧ Coherent g.workspace memory ∧
      ∀ e, r = .error e → g.workspace.Unlisted e := by
  obtain ⟨r, memory, hrun, hm, hr⟩ := load_apply package hp
  obtain ⟨location, hlocation⟩ := h.location? hentries
  refine ⟨r, memory, hrun, hm, ?_⟩
  rintro e rfl
  unfold sources at hr
  rw [hlocation] at hr
  dsimp only at hr
  cases hread : g.workspace.readPackage location with
  | ok us =>
    rw [hread] at hr
    cases hr
  | error e' =>
    rw [hread] at hr
    cases hr
    exact Workspace.unlisted_of_readPackage hlocation hread

/-- A package is described as its functions are. -/
theorem describe_apply {units : List SourceUnit} {p q : Progress}
    (h : g.load package p = (.ok units, q)) : (g.describe package p).1 =
      (g.describeFunctions package (units.flatMap (·.functions)) q).1 := by
  unfold describe describeUnits
  rw [run_bind, h]
  dsimp only
  rw [run_bind]
  generalize g.describeFunctions package (units.flatMap (·.functions)) q = y
  obtain ⟨r, q'⟩ := y
  cases r with
  | error e => rfl
  | ok _ => rfl

/-- A package that is loaded is described until the first function whose comment ends that. -/
theorem describe_result {units : List SourceUnit} {p q : Progress}
    (h : g.load package p = (.ok units, q)) (hq : Coherent g.workspace q.memory) :
    match (units.flatMap (·.functions)).find? (g.isEnd package) with
    | some f => ∃ before line after cause, f.doc = before ++ line :: after ∧
        (∀ earlier ∈ before, g.fault? package earlier = none) ∧
        g.fault? package line = some (.inDirective (Text.trimmed line) cause) ∧
        (g.describe package p).1 =
          .error (.inFunction f.name package.id (.inDirective (Text.trimmed line) cause)) ∧
        cause.isResolution = g.isUnresolved package f ∧
        (g.isUnresolved package f = false → g.workspace.Unlisted cause)
    | none => (g.describe package p).1 = .ok () := by
  have hresult := describeFunctions_result package (units.flatMap (·.functions)) hq
  rw [← describe_apply h] at hresult
  cases hf : (units.flatMap (·.functions)).find? (g.isEnd package) with
  | none =>
    rw [hf] at hresult
    exact hresult
  | some f =>
    rw [hf] at hresult
    obtain ⟨e, he, hrun⟩ := hresult
    obtain ⟨before, line, after, cause, hdoc, hbefore, hline, hcomment, hcause, hother⟩ :=
      commentResult_of_isEnd (List.find?_some hf)
    cases he.symm.trans hcomment
    exact ⟨before, line, after, cause, hdoc, hbefore, hline, hrun, hcause, hother⟩

/-- **Types that are not found are treated leniently outside of the entry packages, and only there.**
In an entry package or a strict run, the first function whose comment names such a type ends the
description of its package, with the first line that does; elsewhere nothing does, and the document is
the one of a run in which the comments of these functions are empty.  A directory that cannot be listed
ends a description in any case: that of the package itself, or that of a type in a comment. -/
theorem describe_policy {config : Config} {files : FileTree} (hg : ofConfig config files = .ok g) :
    (∀ calls, ∀ package ∈ (g.after calls).scanned,
      ∃ r, (g.load package (g.after calls)).1 = r ∧ match r with
      | .error e => g.workspace.Unlisted e ∧ (g.describe package (g.after calls)).1 = .error e
      | .ok units =>
        match (units.flatMap (·.functions)).find? fun f =>
            g.isBarred package f || (config.strict || package.isEntry) && g.isUnresolved package f with
        | some f => ∃ before line after cause, f.doc = before ++ line :: after ∧
          (∀ earlier ∈ before, g.fault? package earlier = none) ∧
          g.fault? package line = some (.inDirective (Text.trimmed line) cause) ∧
          let e := Error.inFunction f.name package.id (.inDirective (Text.trimmed line) cause)
          (g.describe package (g.after calls)).1 = .error e ∧
            e.isResolution = g.isUnresolved package f ∧
            (g.isUnresolved package f = false → g.workspace.Unlisted cause)
        | none => (g.describe package (g.after calls)).1 = .ok ()) ∧
    (files.isOpen → (∀ e, ¬g.workspace.Unlisted e) ∧
      ∀ package f, g.isBarred package f = false) ∧
    (∀ calls package f,
      (g.readComment package f (g.after calls).memory).1.1 = g.commentResult package f) ∧
    (config.strict = false → ∀ silenced : ScannedPackage → Bool,
      (∀ package, silenced package → package.isEntry = false) →
      g.documentBy (fun package =>
        if silenced package then g.describeSilenced package else g.describe package) =
          g.document) := by
  obtain ⟨rfl, rfl, hentries⟩ := ofConfig_ok hg
  refine ⟨fun calls package hpackage => ?_, fun hopen => ?_, fun calls package f => ?_,
    fun hstrict silenced hsilenced => ?_⟩
  · have hafter := evolves_after (g := g) calls
    have hfinds : g.Finds package :=
      (hafter.scanned package hpackage).resolve_left fun h => nomatch h
    obtain ⟨r, memory, hload, hm, hunlisted⟩ := load_of_finds hentries hfinds hafter.coherent
    refine ⟨r, by rw [hload], ?_⟩
    cases r with
    | error e =>
      refine ⟨hunlisted e rfl, ?_⟩
      unfold describe
      rw [run_bind, hload]
    | ok units => exact describe_result hload hm
  · refine ⟨Workspace.not_unlisted hopen, fun package f => Bool.eq_false_iff.mpr fun hbarred => ?_⟩
    obtain ⟨_, _, _, cause, -, -, -, -, -, hother⟩ :=
      commentResult_of_isEnd (g := g) (f := f) (by rw [isEnd, hbarred, Bool.true_or])
    exact Workspace.not_unlisted hopen cause (hother (isUnresolved_of_isBarred hbarred))
  · obtain ⟨draft, hgives⟩ := gives_commentResult (g := g) package f
    have hresult := (hgives _ (evolves_after calls).coherent).1
    rw [hresult]
  · refine (documentBy_congr fun package => ?_).symm
    split
    · rename_i h
      exact alike_describeSilenced (by rw [hstrict, hsilenced package h]; rfl)
    · exact alike_describe package

/-! ### A market -/

/-- A package with another below it, in which a comment names a type that nothing declares. -/
def marketFiles : FileTree where
  root := .dir [("src", .dir [("market", .dir [
    ("market.go", .text
      "package market\n\n// @Title List\n// @Router /goods [get]\nfunc List() \x7b\x7d\n"),
    ("stock", .dir [("stock.go", .text
      ("package stock\n\n// @Title Count\n// @Success 200 \x7bobject\x7d Level\n" ++
        "// @Router /stock [get]\nfunc Count() \x7b\x7d\n"))])])])]

def marketConfig (strict : Bool) : Config where
  apiPackages := ["market"]
  searchPath := ["/"]
  strict

def market (strict : Bool) : Generator :=
  (ofConfig (marketConfig strict) marketFiles).toOption.getD {}

def stock : ScannedPackage := { id := "market/stock", isEntry := false }

def count : FunctionDecl where
  name := "Count"
  doc := ["@Title Count", "@Success 200 \x7bobject\x7d Level", "@Router /stock [get]"]

theorem ofConfig_market (strict : Bool) :
    ofConfig (marketConfig strict) marketFiles = .ok (market strict) := by
  have h : ∀ strict, (ofConfig (marketConfig strict) marketFiles).toOption.isSome := by
    decide +kernel
  exact ofConfig_getD (h strict)

theorem stock_scanned (strict : Bool) : stock ∈ ((market strict).after [.scan]).scanned := by
  have h : ∀ strict, stock ∈ ((market strict).after [.scan]).scanned := by decide +kernel
  exact h strict

theorem find?_stock : ((market true).load stock ((market true).after [.scan])).1.toOption.map
    (fun units => (units.flatMap (·.functions)).find? ((market true).isUnresolved stock)) =
      some (some count) := by decide +kernel

/-- The comment of `Count` is passed over, and ends the description in a strict run. -/
theorem describe_policy_market :
    (∀ strict, ofConfig (marketConfig strict) marketFiles = .ok (market strict)) ∧
    marketFiles.isOpen ∧ (∀ strict, stock ∈ ((market strict).after [.scan]).scanned) ∧
    ((market false).describe stock ((market false).after [.scan])).1 = .ok () ∧
    (∃ line ∈ count.doc, ∃ cause, cause.isResolution ∧
      ((market true).describe stock ((market true).after [.scan])).1 =
        .error (.inFunction "Count" "market/stock" (.inDirective (Text.trimmed line) cause))) ∧
    (market false).documentBy (fun package => if !package.isEntry
      then (market false).describeSilenced package else (market false).describe package) =
        (market false).document := by
  obtain ⟨hlenient, hopen, -, hsilenced⟩ := describe_policy (ofConfig_market false)
  obtain ⟨hstrict, hopen', -⟩ := describe_policy (ofConfig_market true)
  refine ⟨ofConfig_market, rfl, stock_scanned, ?_, ?_, hsilenced rfl _ (by simp)⟩
  · obtain ⟨r, -, h⟩ := hlenient [.scan] stock (stock_scanned false)
    cases r with
    | error e => exact absurd h.1 ((hopen rfl).1 e)
    | ok units =>
      have hlax : ((marketConfig false).strict || stock.isEntry) = false := rfl
      have hnone : (units.flatMap (·.functions)).find? (fun _ => false) = none :=
        List.find?_eq_none.mpr fun _ _ h => nomatch h
      simp only [(hopen rfl).2, hlax, Bool.false_and, Bool.or_false, hnone] at h
      exact h
  · obtain ⟨r, hload, h⟩ := hstrict [.scan] stock (stock_scanned true)
    have hfind := find?_stock
    rw [hload] at hfind
    cases r with
    | error e => exact absurd h.1 ((hopen' rfl).1 e)
    | ok units =>
      have hstrict : ((marketConfig true).strict || stock.isEntry) = true := rfl
      have hcount := Option.some.inj hfind
      simp only [(hopen' rfl).2, hstrict, Bool.true_and, Bool.false_or, hcount] at h
      obtain ⟨before, line, after, cause, hdoc, -, -, hrun, hcause, -⟩ := h
      exact ⟨line, by rw [hdoc]; simp, cause, hcause.trans (List.find?_some hcount), hrun⟩

/-! ### A fence -/

/-- A package with one function that asks for a type in a directory that cannot be listed, and another
that asks for one that nothing declares. -/
def fenceFiles : FileTree where
  root := .dir [("src", .dir [
    ("market", .dir [("market.go", .text
      ("package market\n\nimport \"stock\"\n\n" ++
        "// @Title Count\n// @Success 200 \x7bobject\x7d stock.Level\n" ++
        "// @Router /stock [get]\nfunc Count() \x7b\x7d\n\n" ++
        "// @Title List\n// @Success 200 \x7bobject\x7d Goods\n" ++
        "// @Router /goods [get]\nfunc List() \x7b\x7d\n"))]),
    ("stock", .dir [])])]
  unlisted := [(["src", "stock"], .permissionDenied)]

def fence : Generator := (ofConfig (marketConfig false) fenceFiles).toOption.getD {}

def entryMarket : ScannedPackage := { id := "market", isEntry := true }

def stallSource : String :=
  "/// @Title List\n/// @Success 200 \x7bobject\x7d Goods\n/// @Router /goods [get]\n" ++
    "pub fn list() \x7b\x7d\n"

/-- A package with one source, in which some text follows a function. -/
def stall (text : String) : Generator :=
  (ofConfig { apiPackages := ["market"], searchPath := ["/"], language := .rust }
    (({} : FileTree).put ["src", "market", "lib.rs"] (.text (stallSource ++ text)))).toOption.getD {}

/-- **A function with a type that is not found need not end the description of an entry package**: one
before it can, with a directory that cannot be listed, and a source that cannot be read has none. -/
theorem describe_elsewhere :
    (ofConfig (marketConfig false) fenceFiles = .ok fence ∧
      entryMarket ∈ (fence.after [.scan]).scanned ∧
      ((fence.load entryMarket (fence.after [.scan])).1.toOption.map fun units =>
        ((units.flatMap (·.functions)).filter (fence.isUnresolved entryMarket)).map (·.name)) =
          some ["List"] ∧
      (fence.describe entryMarket (fence.after [.scan])).1 =
        .error (.inFunction "Count" "market"
          (.inDirective "@Success 200 \x7bobject\x7d stock.Level"
            (.io "/src/stock" .permissionDenied)))) ∧
    (entryMarket ∈ ((stall "").after [.scan]).scanned ∧
      ((stall "").describe entryMarket ((stall "").after [.scan])).1 =
        .error (.inFunction "list" "market" (.inDirective "@Success 200 \x7bobject\x7d Goods"
          (.modelNotFound "Goods" "market")))) ∧
    entryMarket ∈ ((stall "fn broken( \x7b\n").after [.scan]).scanned ∧
      ((stall "fn broken( \x7b\n").describe entryMarket
        ((stall "fn broken( \x7b\n").after [.scan])).1 = .ok () := by
  have hfence : (ofConfig (marketConfig false) fenceFiles).toOption.isSome := by decide +kernel
  exact ⟨⟨ofConfig_getD hfence, by decide +kernel, by decide +kernel, by decide +kernel⟩,
    ⟨by decide +kernel, by decide +kernel⟩, by decide +kernel, by decide +kernel⟩

end Generator

end ApiScribe
