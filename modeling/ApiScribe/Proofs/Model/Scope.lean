import ApiScribe.Proofs.Model.Find
import ApiScribe.Proofs.Model.Sketch

/-!
# Where names can lead

The names that declarations mention, the packages of what is found under them, and the ids of that:
some names in one package lead nowhere else (`Workspace.scope`).  The files hold finitely many
declarations and imports, so these are finitely many.
-/

namespace ApiScribe

/-! ### Mentioned names -/

namespace Shape

theorem name?_of_reference? {overrides : Overrides} {type : TypeExpr} {name : String}
    (h : reference? overrides type = some name) : (ofType overrides type).name? = some name := by
  unfold reference? at h
  split at h
  · rename_i heq
    cases h
    rw [heq]
    rfl
  · cases h

end Shape

section

variable {overrides : Overrides} {d : Declared}

theorem mentions_of_follows {target : String} (h : d.role overrides = .follows target) :
    target ∈ d.decl.mentions overrides := by
  unfold Declared.role at h
  split at h
  · rename_i type hkind
    split at h
    · cases h
    · rename_i heq
      cases h
      refine List.mem_filterMap.mpr ⟨type, ?_, by rw [heq]; rfl⟩
      unfold TypeDecl.types
      rw [hkind]
      exact List.mem_singleton_self _
    · cases h
  · cases h

theorem mentions_of_field {fields : List FieldDecl} {f : FieldDecl} {name : String}
    (hkind : d.decl.kind = .struct fields) (hf : f ∈ fields)
    (h : (Shape.ofType overrides f.type).name? = some name) :
    name ∈ d.decl.mentions overrides := by
  refine List.mem_filterMap.mpr ⟨f.type, ?_, h⟩
  unfold TypeDecl.types
  rw [hkind]
  exact List.mem_map_of_mem hf

theorem mentions_of_embedded {fields : List FieldDecl} {f : FieldDecl} {name : String}
    (hkind : d.decl.kind = .struct fields) (hf : f ∈ fields)
    (h : f.embedded? overrides = some name) : name ∈ d.decl.mentions overrides := by
  unfold FieldDecl.embedded? at h
  split at h
  · cases h
  · exact mentions_of_field hkind hf (Shape.name?_of_reference? h)

theorem name?_of_partOf? {f : FieldDecl} {p : Part} {name : String}
    (h : Sketch.partOf? overrides f = some p) (hp : p.content = .pending name) :
    (Shape.ofType overrides f.type).name? = some name := by
  unfold Sketch.partOf? at h
  dsimp only at h
  split at h
  · rename_i e heq
    cases h
    rw [heq]
    cases e <;> cases hp
    rfl
  · rename_i e heq
    cases h
    rw [heq]
    cases e <;> cases hp
    rfl
  · cases h

theorem mentions_of_typeName {fields : List FieldDecl} {name : String}
    (hkind : d.decl.kind = .struct fields)
    (h : name ∈ (Sketch.ofFields overrides d fields).typeNames) :
    name ∈ d.decl.mentions overrides := by
  obtain ⟨k, p, hk, hp⟩ := Sketch.mem_typeNames.mp h
  obtain ⟨f, hf, hpart⟩ := Sketch.part_ofFields hk
  exact mentions_of_field hkind hf (name?_of_partOf? hpart hp)

end

/-! ### Everything in the files -/

namespace Entry

theorem mem_textsIn {es : List (String × Entry)} {name : String} {e : Entry} {content : String}
    (h : es.lookup name = some e) (hc : content ∈ e.texts) : content ∈ textsIn es := by
  induction es with
  | nil => cases h
  | cons x es ih =>
    obtain ⟨name', e'⟩ := x
    unfold textsIn
    rw [KeyMap.lookup_cons] at h
    split at h
    · cases h
      exact List.mem_append_left _ hc
    · exact List.mem_append_right _ (ih h)

theorem mem_texts_of_at? {e : Entry} {place : List String} {content : String}
    (h : e.at? place = some (.text content)) : content ∈ e.texts := by
  induction place generalizing e with
  | nil =>
    cases h
    exact List.mem_singleton_self _
  | cons name place ih =>
    obtain ⟨child, hchild, hat⟩ := Option.bind_eq_some_iff.mp h
    cases e with
    | dir es => exact mem_textsIn hchild (ih hat)
    | text _ => cases hchild
    | binary => cases hchild

end Entry

theorem FileTree.mem_texts_of_readText {t : FileTree} {path content : String}
    (h : t.readText path = .ok content) : content ∈ t.root.texts := by
  unfold readText at h
  cases hf : t.find path with
  | error e =>
    rw [hf] at h
    cases h
  | ok found =>
    obtain ⟨place, e⟩ := found
    rw [hf] at h
    cases e with
    | text content' =>
      cases h
      unfold find at hf
      split at hf
      · cases hf
      · split at hf
        · rename_i hat
          cases hf
          exact Entry.mem_texts_of_at? hat
        · cases hf
    | binary => cases h
    | dir es => cases h

namespace Workspace

variable {w : Workspace}

theorem unplaced_mem_sources {path : String} {us : List SourceUnit} {u : SourceUnit}
    (h : w.readPackage path = .ok us) (hu : u ∈ us) :
    ∃ u' ∈ w.sources, u'.types = u.types ∧ u'.imports = u.imports := by
  obtain ⟨place, es, -, -, rfl⟩ := readPackage_ok.mp h
  obtain ⟨p, -, hp⟩ := List.mem_filterMap.mp hu
  unfold readFile at hp
  split at hp
  · rename_i source hsource
    have hmap := w.language.read_unplaced p "" source
    rw [hp, Option.map_some] at hmap
    obtain ⟨u', hu', heq⟩ := Option.map_eq_some_iff.mp hmap.symm
    have htypes := congrArg SourceUnit.types heq
    have himports := congrArg SourceUnit.imports heq
    exact ⟨u', List.mem_filterMap.mpr ⟨source, FileTree.mem_texts_of_readText hsource, hu'⟩,
      htypes, himports⟩
  · cases hp

theorem mem_declarations {package name : String} {decl : TypeDecl}
    (h : w.plain.declared package name = .ok (some decl)) : decl ∈ w.declarations := by
  unfold plain at h
  dsimp only at h
  split at h
  · cases h
  · rename_i location _
    cases hread : w.readPackage location with
    | error e =>
      rw [hread] at h
      cases h
    | ok us =>
      rw [hread] at h
      have hget : (typesOf us).get? name = some decl := Except.ok.inj h
      obtain ⟨d, hd, heq⟩ := List.mem_map.mp (KeyMap.mem_of_get?_ofList hget)
      cases heq
      obtain ⟨u, hu, hdu⟩ := List.mem_flatMap.mp hd
      obtain ⟨u', hu', htypes, -⟩ := unplaced_mem_sources hread hu
      exact List.mem_flatMap.mpr ⟨u', hu', htypes ▸ hdu⟩

theorem mem_tableOf {us : List SourceUnit} {key package : String} {packages : List String}
    (h : (w.tableOf us).get? key = some packages) (hp : package ∈ packages) :
    ∃ u ∈ us, ∃ i ∈ u.imports, i.path = package := by
  rw [get?_tableOf] at h
  split at h
  · cases h
  cases h
  obtain ⟨i, hi, hpath⟩ := List.mem_map.mp (mem_firsts_id.mp hp)
  obtain ⟨hi, -⟩ := List.mem_filter.mp hi
  obtain ⟨hi, -⟩ := List.mem_filter.mp hi
  obtain ⟨u, hu, hiu⟩ := List.mem_flatMap.mp hi
  exact ⟨u, hu, i, hiu, hpath⟩

theorem mem_importPaths {package name imported : String} {packages : Option (List String)}
    (h : w.plain.imported package name = .ok packages) (hp : imported ∈ packages.getD []) :
    imported ∈ w.importPaths := by
  unfold plain at h
  dsimp only at h
  split at h
  · cases h
  · rename_i location _
    cases hread : w.readPackage location with
    | error e =>
      rw [hread] at h
      cases h
    | ok us =>
      rw [hread] at h
      have hget : (w.tableOf us).get? name = packages := Except.ok.inj h
      cases packages with
      | none => cases hp
      | some packages =>
        obtain ⟨u, hu, i, hi, hpath⟩ := mem_tableOf hget hp
        obtain ⟨u', hu', -, himports⟩ := unplaced_mem_sources hread hu
        exact List.mem_map.mpr ⟨i, List.mem_flatMap.mpr ⟨u', hu', himports ▸ hi⟩, hpath⟩

end Workspace

/-! ### Finitely many ids -/

/-- Names and packages out of which no declaration leads, and the ids that are found with them. -/
structure Scope (w : Workspace) (overrides : Overrides) where
  names : List String
  packages : List String
  ids : List String
  package_mem : ∀ {name package d}, name ∈ names → package ∈ packages →
    w.found name package = .ok d → d.package ∈ packages
  id_mem : ∀ {name package d}, name ∈ names → package ∈ packages →
    w.found name package = .ok d → d.modelId ∈ ids
  mentions_mem : ∀ {name package d}, name ∈ names → package ∈ packages →
    w.found name package = .ok d → ∀ target ∈ d.decl.mentions overrides, target ∈ names

namespace Workspace

variable {w : Workspace} {overrides : Overrides} {names : List String} {package : String}

theorem package_mem_reachedPackages {n p : String} {d : Declared}
    (hn : n ∈ w.reachedNames overrides names) (hp : p ∈ w.reachedPackages overrides names package)
    (h : w.found n p = .ok d) : d.package ∈ w.reachedPackages overrides names package := by
  have hqualifier : ∀ {qualifier bare}, Text.splitLast '.' n = some (qualifier, bare) →
      qualifier ∈ w.reachedPackages overrides names package := by
    intro qualifier bare hcut
    refine List.mem_append_right _ ?_
    exact List.mem_filterMap.mpr ⟨n, hn, by rw [hcut]; rfl⟩
  obtain ⟨decl, owner⟩ := d
  cases found_ok.mp h with
  | own => exact hp
  | item _ _ hitems hitem =>
    obtain ⟨item, hmem, bare, hcut, -⟩ := Packages.declaredItem_ok hitem
    refine List.mem_append_left _ (List.mem_append_right _ ?_)
    exact List.mem_filterMap.mpr ⟨item, mem_importPaths hitems hmem, by rw [hcut]; rfl⟩
  | full hname => exact hqualifier hname
  | imported _ _ _ hpackages hfound =>
    have hmem := (Packages.declaredIn_ok hfound).1
    refine List.mem_append_left _ (List.mem_append_left _ ?_)
    exact List.mem_cons_of_mem _ (mem_importPaths hpackages hmem)

theorem decl_mem_declarations {n p : String} {d : Declared} (h : w.found n p = .ok d) :
    d.decl ∈ w.declarations := by
  obtain ⟨bare, hd⟩ := (found_ok.mp h).declared
  exact mem_declarations hd

theorem mention_mem_reachedNames {target : String} {decl : TypeDecl}
    (hd : decl ∈ w.declarations) (ht : target ∈ decl.mentions overrides) :
    target ∈ w.reachedNames overrides names :=
  List.mem_append_right _ (List.mem_flatMap.mpr ⟨decl, hd, ht⟩)

variable (w overrides names package)

/-- **From finitely many names in one package, finitely many ids are reached.** -/
def scope : Scope w overrides where
  names := w.reachedNames overrides names
  packages := w.reachedPackages overrides names package
  ids := w.reachedIds overrides names package
  package_mem := package_mem_reachedPackages
  id_mem := by
    intro n p d hn hp h
    have hown := package_mem_reachedPackages hn hp h
    have hdecl := decl_mem_declarations h
    exact List.mem_flatMap.mpr ⟨d.package, hown, List.mem_map.mpr ⟨d.decl, hdecl, rfl⟩⟩
  mentions_mem := by
    intro n p d _ _ h target ht
    have hdecl := decl_mem_declarations h
    exact mention_mem_reachedNames hdecl ht

variable {w overrides names}

theorem name_mem_scope {name : String} (h : name ∈ names) :
    name ∈ (w.scope overrides names package).names := List.mem_append_left _ h

variable (names) {package}

theorem package_mem_scope : package ∈ (w.scope overrides names package).packages :=
  List.mem_append_left _ (List.mem_append_left _ List.mem_cons_self)

end Workspace

end ApiScribe
