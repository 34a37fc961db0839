import ApiScribe.Proofs.Package.Discovery

/-!
# What a package declares and imports

What the tables of a package answer, said of its sources as lists: of the types with one name the
last counts (`declared?`), and an alias stands for the paths that are imported under it, in the order
in which they are first seen (`importedAs`).  If `Workspace.plain` answers, it answers this
(`declared_plain_ok`, `imported_plain_ok`), and it always does where all directories can be listed.
-/

namespace ApiScribe

namespace Workspace

/-! ### Packages -/

variable (w : Workspace)

/-- The sources of a package; one without location has none. -/
def unitsOf (package : String) : List SourceUnit :=
  ((w.location? package).bind fun location => (w.readPackage location).toOption).getD []

/-- The type that a package declares under a name: the last one in its sources. -/
def declared? (package name : String) : Option TypeDecl :=
  ((w.unitsOf package).flatMap (·.types)).reverse.find? fun decl => decl.name = name

/-- The packages that a package imports under a name and that are not ignored, each where it is seen
first. -/
def importedAs (package name : String) : List String :=
  pathsUnder name (w.importsOf (w.unitsOf package))

variable {w} {package : String}

theorem unitsOf_of_location? {location : String} {us : List SourceUnit}
    (h : w.location? package = some location) (hread : w.readPackage location = .ok us) :
    w.unitsOf package = us := by
  unfold unitsOf
  rw [h, Option.bind_some, hread]
  rfl

theorem name_of_declared? {name : String} {decl : TypeDecl}
    (h : w.declared? package name = some decl) : decl.name = name := by
  simpa using List.find?_some h

theorem declared_plain_ok {name : String} {decl : Option TypeDecl}
    (h : w.plain.declared package name = .ok decl) : w.declared? package name = decl := by
  unfold plain at h
  dsimp only at h
  split at h
  · rename_i hlocation
    have hunits : w.unitsOf package = [] := by
      unfold unitsOf
      rw [hlocation]
      rfl
    cases h
    rw [declared?, hunits]
    rfl
  · rename_i location hlocation
    obtain ⟨us, hus, rfl⟩ := except_map_ok.mp h
    rw [declared?, unitsOf_of_location? hlocation hus, ← get?_typesOf]

theorem declared_plain (hopen : w.files.isOpen) (package name : String) :
    w.plain.declared package name = .ok (w.declared? package name) := by
  cases h : w.plain.declared package name with
  | ok decl => rw [declared_plain_ok h]
  | error e => exact absurd (unlisted_of_declared h) (not_unlisted hopen e)

/-- A package whose sources hold a declaration can be read, so it answers. -/
theorem declared_plain_some {name : String} {decl : TypeDecl}
    (h : w.declared? package name = some decl) :
    w.plain.declared package name = .ok (some decl) := by
  cases hanswer : w.plain.declared package name with
  | ok decl' => rw [← h, declared_plain_ok hanswer]
  | error e =>
    unfold plain at hanswer
    dsimp only at hanswer
    split at hanswer
    · cases hanswer
    · rename_i location hlocation
      have hunits : w.unitsOf package = [] := by
        unfold unitsOf
        rw [hlocation, Option.bind_some]
        cases hread : w.readPackage location with
        | ok us =>
          rw [hread] at hanswer
          cases hanswer
        | error e => rfl
      rw [declared?, hunits] at h
      cases h

theorem imported_plain_ok {name : String} {paths : Option (List String)}
    (h : w.plain.imported package name = .ok paths) :
    paths = if w.importedAs package name = [] then none else some (w.importedAs package name) := by
  unfold plain at h
  dsimp only at h
  split at h
  · cases h
  · rename_i location hlocation
    obtain ⟨us, hus, rfl⟩ := except_map_ok.mp h
    rw [importedAs, unitsOf_of_location? hlocation hus, ← get?_tableOf]

theorem imported_plain (hopen : w.files.isOpen) (h : (w.location? package).isSome)
    (name : String) : w.plain.imported package name =
      .ok (if w.importedAs package name = [] then none else some (w.importedAs package name)) := by
  obtain ⟨location, hlocation⟩ := Option.isSome_iff_exists.mp h
  obtain ⟨us, hus⟩ := readPackage_of_isOpen hopen hlocation
  cases hanswer : w.plain.imported package name with
  | ok paths => rw [← imported_plain_ok hanswer]
  | error e =>
    unfold plain at hanswer
    dsimp only at hanswer
    rw [hlocation] at hanswer
    dsimp only at hanswer
    rw [hus] at hanswer
    cases hanswer

end Workspace

end ApiScribe
