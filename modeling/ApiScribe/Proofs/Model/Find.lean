import ApiScribe.Model.Build
import ApiScribe.Proofs.Package.Coherence

/-!
# The search for declarations without a memory

* `Packages.Finds` — where a name is found, one case for each way;
* `Workspace.found` — the declaration that a name means, read off the files;
* `gives_find` — a search in a session finds just this, whatever has been asked before.
-/

namespace ApiScribe

namespace Packages

/-! ### Step by step -/

/-- The packages of a session answer as others do that know no memory. -/
structure Answers (I : Memory → Prop) (ps : Packages Session) (qs : Packages (Except Error)) :
    Prop where
  declared : ∀ package name, Gives I (ps.declared package name) (qs.declared package name)
  imported : ∀ package name, Gives I (ps.imported package name) (qs.imported package name)

section

variable {I : Memory → Prop} {ps : Packages Session} {qs : Packages (Except Error)}

theorem Answers.declaredIn (h : Answers I ps qs) (name : String) (packages : List String) :
    Gives I (ps.declaredIn name packages) (qs.declaredIn name packages) := by
  induction packages with
  | nil => exact gives_pure none
  | cons package packages ih =>
    refine (h.declared package name).bind fun found => ?_
    cases found with
    | some decl => exact gives_pure _
    | none => exact ih

theorem Answers.declaredItem (h : Answers I ps qs) (items : List String) :
    Gives I (ps.declaredItem items) (qs.declaredItem items) := by
  induction items with
  | nil => exact gives_pure none
  | cons item items ih =>
    unfold Packages.declaredItem
    cases Text.splitLast '/' item with
    | none => exact ih
    | some cut =>
      obtain ⟨package, name⟩ := cut
      refine (h.declared package name).bind fun found => ?_
      cases found with
      | some decl => exact gives_pure _
      | none => exact ih

theorem Answers.findPlain (h : Answers I ps qs) (name package : String) :
    Gives I (ps.findPlain name package) (qs.findPlain name package) := by
  refine (h.declared package name).bind fun found => ?_
  cases found with
  | some decl => exact gives_pure _
  | none =>
    refine (h.imported package name).bind fun items => ?_
    refine (h.declaredItem (items.getD [])).bind fun found => ?_
    cases found with
    | some found => exact gives_pure _
    | none => exact gives_throw _

theorem Answers.findQualified (h : Answers I ps qs) (qualifier name whole package : String) :
    Gives I (ps.findQualified qualifier name whole package)
      (qs.findQualified qualifier name whole package) := by
  refine (h.declared qualifier name).bind fun found => ?_
  cases found with
  | some decl => exact gives_pure _
  | none =>
    dsimp only
    split
    · exact (gives_throw _).error_bind
    · refine (h.imported package qualifier).bind fun packages => ?_
      cases packages with
      | none => exact gives_throw _
      | some packages =>
        refine (h.declaredIn name packages).bind fun found => ?_
        cases found with
        | some found => exact gives_pure _
        | none => exact gives_throw _

/-- **A search finds what it finds without a memory**, if single packages answer so. -/
theorem Answers.find (h : Answers I ps qs) (name package : String) :
    Gives I (ps.find name package) (qs.find name package) := by
  unfold Packages.find
  split
  · exact h.findPlain name package
  · exact h.findQualified _ _ name package

end

/-! ### Where a name is found -/

/-- A name means a declaration of a package. -/
inductive Finds (ps : Packages (Except Error)) (name package : String) :
    TypeDecl → String → Prop
  | own {decl} (hname : Text.splitLast '.' name = none)
      (hown : ps.declared package name = .ok (some decl)) : Finds ps name package decl package
  | item {items decl owner} (hname : Text.splitLast '.' name = none)
      (hown : ps.declared package name = .ok none)
      (hitems : ps.imported package name = .ok items)
      (hitem : ps.declaredItem (items.getD []) = .ok (some (decl, owner))) :
      Finds ps name package decl owner
  | full {qualifier bare decl} (hname : Text.splitLast '.' name = some (qualifier, bare))
      (hfull : ps.declared qualifier bare = .ok (some decl)) :
      Finds ps name package decl qualifier
  | imported {qualifier bare packages decl owner}
      (hname : Text.splitLast '.' name = some (qualifier, bare))
      (hfull : ps.declared qualifier bare = .ok none)
      (hpath : isPackagePath qualifier = false)
      (hpackages : ps.imported package qualifier = .ok (some packages))
      (hfound : ps.declaredIn bare packages = .ok (some (decl, owner))) :
      Finds ps name package decl owner

variable {ps : Packages (Except Error)}

theorem findPlain_ok {name package : String} {decl : TypeDecl} {owner : String} :
    ps.findPlain name package = .ok (decl, owner) ↔
      (ps.declared package name = .ok (some decl) ∧ owner = package) ∨
      (ps.declared package name = .ok none ∧ ∃ items, ps.imported package name = .ok items ∧
        ps.declaredItem (items.getD []) = .ok (some (decl, owner))) := by
  unfold findPlain
  rw [except_bind_ok]
  constructor
  · rintro ⟨_ | decl', hd, h⟩
    · obtain ⟨items, hi, h⟩ := except_bind_ok.mp h
      obtain ⟨_ | found, hf, h⟩ := except_bind_ok.mp h
      · cases h
      · cases h
        exact Or.inr ⟨hd, items, hi, hf⟩
    · cases h
      exact Or.inl ⟨hd, rfl⟩
  · rintro (⟨hd, rfl⟩ | ⟨hd, items, hi, hf⟩)
    · exact ⟨_, hd, rfl⟩
    · refine ⟨_, hd, ?_⟩
      dsimp only
      rw [hi]
      show (ps.declaredItem (items.getD []) >>= _) = _
      rw [hf]
      rfl

theorem findQualified_ok {qualifier name whole package : String} {decl : TypeDecl}
    {owner : String} :
    ps.findQualified qualifier name whole package = .ok (decl, owner) ↔
      (ps.declared qualifier name = .ok (some decl) ∧ owner = qualifier) ∨
      (ps.declared qualifier name = .ok none ∧ isPackagePath qualifier = false ∧
        ∃ packages, ps.imported package qualifier = .ok (some packages) ∧
          ps.declaredIn name packages = .ok (some (decl, owner))) := by
  unfold findQualified
  rw [except_bind_ok]
  constructor
  · rintro ⟨_ | decl', hd, h⟩
    · dsimp only at h
      split at h
      · cases h
      · rename_i hpath
        obtain ⟨_ | packages, hi, h⟩ := except_bind_ok.mp h
        · cases h
        · obtain ⟨_ | found, hf, h⟩ := except_bind_ok.mp h
          · cases h
          · cases h
            exact Or.inr ⟨hd, Bool.eq_false_iff.mpr hpath, packages, hi, hf⟩
    · cases h
      exact Or.inl ⟨hd, rfl⟩
  · rintro (⟨hd, rfl⟩ | ⟨hd, hpath, packages, hi, hf⟩)
    · exact ⟨_, hd, rfl⟩
    · refine ⟨_, hd, ?_⟩
      dsimp only
      rw [hpath, if_neg Bool.false_ne_true, hi]
      show (ps.declaredIn name packages >>= _) = _
      rw [hf]
      rfl

theorem find_ok {name package : String} {decl : TypeDecl} {owner : String} :
    ps.find name package = .ok (decl, owner) ↔ ps.Finds name package decl owner := by
  unfold find
  cases hname : Text.splitLast '.' name with
  | none =>
    rw [findPlain_ok]
    constructor
    · rintro (⟨hd, rfl⟩ | ⟨hd, items, hi, hf⟩)
      · exact .own hname hd
      · exact .item hname hd hi hf
    · intro h
      cases h with
      | own _ hd => exact Or.inl ⟨hd, rfl⟩
      | item _ hd hi hf => exact Or.inr ⟨hd, _, hi, hf⟩
      | full hname' => cases hname.symm.trans hname'
      | imported hname' => cases hname.symm.trans hname'
  | some cut =>
    obtain ⟨qualifier, bare⟩ := cut
    rw [findQualified_ok]
    constructor
    · rintro (⟨hd, rfl⟩ | ⟨hd, hpath, packages, hi, hf⟩)
      · exact .full hname hd
      · exact .imported hname hd hpath hi hf
    · intro h
      cases h with
      | own hname' => cases hname.symm.trans hname'
      | item hname' => cases hname.symm.trans hname'
      | full hname' hd =>
        cases hname.symm.trans hname'
        exact Or.inl ⟨hd, rfl⟩
      | imported hname' hd hpath hi hf =>
        cases hname.symm.trans hname'
        exact Or.inr ⟨hd, hpath, _, hi, hf⟩

theorem declaredIn_ok {name : String} {packages : List String} {decl : TypeDecl} {owner : String}
    (h : ps.declaredIn name packages = .ok (some (decl, owner))) :
    owner ∈ packages ∧ ps.declared owner name = .ok (some decl) := by
  induction packages with
  | nil => cases h
  | cons package packages ih =>
    obtain ⟨_ | decl', hd, h⟩ := except_bind_ok.mp h
    · exact (ih h).imp_left (List.mem_cons_of_mem _)
    · cases h
      exact ⟨List.mem_cons_self, hd⟩

theorem declaredItem_ok {items : List String} {decl : TypeDecl} {owner : String}
    (h : ps.declaredItem items = .ok (some (decl, owner))) :
    ∃ item ∈ items, ∃ name, Text.splitLast '/' item = some (owner, name) ∧
      ps.declared owner name = .ok (some decl) := by
  induction items with
  | nil => cases h
  | cons item items ih =>
    unfold declaredItem at h
    split at h
    · obtain ⟨i, hi, hfound⟩ := ih h
      exact ⟨i, List.mem_cons_of_mem _ hi, hfound⟩
    · rename_i package name hcut
      obtain ⟨_ | decl', hd, h⟩ := except_bind_ok.mp h
      · obtain ⟨i, hi, hfound⟩ := ih h
        exact ⟨i, List.mem_cons_of_mem _ hi, hfound⟩
      · cases h
        exact ⟨item, List.mem_cons_self, name, hcut, hd⟩

theorem Finds.declared {name package : String} {decl : TypeDecl} {owner : String}
    (h : ps.Finds name package decl owner) : ∃ bare, ps.declared owner bare = .ok (some decl) := by
  cases h with
  | own _ hd => exact ⟨_, hd⟩
  | item _ _ _ hf =>
    obtain ⟨item, -, bare, -, hd⟩ := declaredItem_ok hf
    exact ⟨bare, hd⟩
  | full _ hd => exact ⟨_, hd⟩
  | imported _ _ _ _ hf => exact ⟨_, (declaredIn_ok hf).2⟩

end Packages

namespace Workspace

variable (w : Workspace)

/-- The declaration that a name means in a package, read off the files. -/
def found (name package : String) : Except Error Declared := do
  let (decl, package) ← w.plain.find name package
  return { decl, package }

/-- The search for some name fails so. -/
def Misses (e : Error) : Prop := ∃ name package, w.found name package = .error e

variable {w}

theorem found_ok {name package : String} {d : Declared} :
    w.found name package = .ok d ↔ w.plain.Finds name package d.decl d.package := by
  unfold found
  rw [except_bind_ok]
  constructor
  · rintro ⟨⟨decl, owner⟩, hf, h⟩
    cases h
    exact Packages.find_ok.mp hf
  · intro h
    exact ⟨_, Packages.find_ok.mpr h, rfl⟩

theorem answers_packages : Packages.Answers (Coherent w) w.packages w.plain where
  declared := gives_lookup
  imported := gives_candidates

theorem gives_findDefinition (name package : String) :
    Gives (Coherent w) (w.findDefinition name package) (w.plain.find name package) :=
  answers_packages.find name package

/-- **Building finds the declarations that the files tell**, whatever has been asked before. -/
theorem gives_find (name package : String) :
    Gives (Coherent w) (Build.find w name package) (w.found name package) :=
  (gives_findDefinition name package).bind fun _ => gives_pure _

end Workspace

end ApiScribe
