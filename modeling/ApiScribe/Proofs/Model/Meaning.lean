import ApiScribe.Proofs.Model.History
import ApiScribe.Proofs.Model.Identity
import ApiScribe.Proofs.Package.Contents

/-!
# What a name means

* `Workspace.Means` — the declaration that a name means in a package and the package that declares
  it, one case for each way in which a name can mean something;
* `means_of_finds`, `finds_of_means` — a search finds it, always if all directories can be listed;
* `findDefinition_means` — whatever has been asked before, what is found is what the name means, and
  it is found again under its full name, from everywhere; and a search that fails blames the import
  exactly if there is none under the qualifier.
-/

namespace ApiScribe

namespace Workspace

/-! ### The ways in which a name means something -/

variable (w : Workspace)

/-- An imported path is that of a type: its last segment is declared by the package before it. -/
def ItemOf (path : String) (decl : TypeDecl) (owner : String) : Prop :=
  ∃ name, path = owner ++ "/" ++ name ∧ '/' ∉ name.toList ∧ w.declared? owner name = some decl

/-- A qualifier that may be the name of an import; others can only be packages in full. -/
def IsPlain (qualifier : String) : Prop := '/' ∉ qualifier.toList ∧ '.' ∉ qualifier.toList

/-- A name means a declaration of a package. -/
inductive Means (name package : String) : TypeDecl → String → Prop
  /-- The package itself declares the name. -/
  | own {decl : TypeDecl} (hname : '.' ∉ name.toList)
      (hdecl : w.declared? package name = some decl) : Means name package decl package
  /-- The first of the paths imported under the name that is one of a type. -/
  | item {before after : List String} {path owner : String} {decl : TypeDecl}
      (hname : '.' ∉ name.toList) (hown : w.declared? package name = none)
      (hpaths : w.importedAs package name = before ++ path :: after)
      (hitem : w.ItemOf path decl owner)
      (hbefore : ∀ other ∈ before, ∀ decl owner, ¬ w.ItemOf other decl owner) :
      Means name package decl owner
  /-- The qualifier is a package that declares the name. -/
  | full {qualifier bare : String} {decl : TypeDecl} (hname : name = qualifier ++ "." ++ bare)
      (hbare : '.' ∉ bare.toList) (hdecl : w.declared? qualifier bare = some decl) :
      Means name package decl qualifier
  /-- The first of the packages imported under the qualifier that declares the name. -/
  | imported {qualifier bare : String} {before after : List String} {owner : String}
      {decl : TypeDecl} (hname : name = qualifier ++ "." ++ bare) (hbare : '.' ∉ bare.toList)
      (hfull : w.declared? qualifier bare = none) (hplain : IsPlain qualifier)
      (hpackages : w.importedAs package qualifier = before ++ owner :: after)
      (hdecl : w.declared? owner bare = some decl)
      (hbefore : ∀ other ∈ before, w.declared? other bare = none) : Means name package decl owner

/-- A package imports nothing under the qualifier of a name, which is no package in full. -/
def Unimported (name package qualifier : String) : Prop :=
  IsPlain qualifier ∧ w.importedAs package qualifier = [] ∧
    ∃ bare, name = qualifier ++ "." ++ bare ∧ '.' ∉ bare.toList

variable {w}

/-! ### First of several -/

theorem isPackagePath_eq_false_iff {qualifier : String} :
    Packages.isPackagePath qualifier = false ↔ IsPlain qualifier := by
  unfold Packages.isPackagePath IsPlain
  rw [List.any_eq_false]
  constructor
  · intro h
    exact ⟨fun hslash => h _ hslash (by simp), fun hdot => h _ hdot (by simp)⟩
  · rintro ⟨hslash, hdot⟩ c hc
    have hne : c ≠ '/' ∧ c ≠ '.' := ⟨fun heq => hslash (heq ▸ hc), fun heq => hdot (heq ▸ hc)⟩
    simp [hne]

theorem declaredIn_plain_ok {name : String} {packages : List String}
    {found : Option (TypeDecl × String)} (h : w.plain.declaredIn name packages = .ok found) :
    packages.findSome? (fun p => (w.declared? p name).map fun decl => (decl, p)) = found := by
  induction packages with
  | nil => exact Except.ok.inj h
  | cons package packages ih =>
    obtain ⟨decl, hdecl, h⟩ := except_bind_ok.mp h
    rw [List.findSome?_cons, declared_plain_ok hdecl]
    cases decl with
    | some decl => exact Except.ok.inj h
    | none => exact ih h

theorem declaredIn_plain (hopen : w.files.isOpen) (name : String) (packages : List String) :
    w.plain.declaredIn name packages =
      .ok (packages.findSome? fun p => (w.declared? p name).map fun decl => (decl, p)) := by
  cases h : w.plain.declaredIn name packages with
  | ok found => rw [declaredIn_plain_ok h]
  | error e =>
    exact absurd (Packages.declaredIn_error (P := w.Unlisted) (fun _ _ _ => unlisted_of_declared) h)
      (not_unlisted hopen e)

/-- The type that an imported path is that of. -/
def item? (w : Workspace) (path : String) : Option (TypeDecl × String) :=
  (Text.splitLast '/' path).bind fun (owner, name) =>
    (w.declared? owner name).map fun decl => (decl, owner)

theorem item?_eq_some_iff {path owner : String} {decl : TypeDecl} :
    w.item? path = some (decl, owner) ↔ w.ItemOf path decl owner := by
  unfold item? ItemOf
  rw [Option.bind_eq_some_iff]
  constructor
  · rintro ⟨⟨owner', name⟩, hcut, hdecl⟩
    obtain ⟨decl', hdecl, heq⟩ := Option.map_eq_some_iff.mp hdecl
    cases heq
    obtain ⟨hpath, hname⟩ := Text.splitLast_eq_some_iff.mp hcut
    exact ⟨name, hpath, hname, hdecl⟩
  · rintro ⟨name, hpath, hname, hdecl⟩
    exact ⟨(owner, name), Text.splitLast_eq_some_iff.mpr ⟨hpath, hname⟩, by simp [hdecl]⟩

theorem item?_eq_none_iff {path : String} :
    w.item? path = none ↔ ∀ decl owner, ¬ w.ItemOf path decl owner := by
  rw [Option.eq_none_iff_forall_ne_some]
  constructor
  · exact fun h decl owner hitem => h _ (item?_eq_some_iff.mpr hitem)
  · exact fun h found hfound => h _ _ (item?_eq_some_iff.mp hfound)

theorem declaredItem_plain_ok {paths : List String} {found : Option (TypeDecl × String)}
    (h : w.plain.declaredItem paths = .ok found) : paths.findSome? w.item? = found := by
  induction paths with
  | nil => exact Except.ok.inj h
  | cons path paths ih =>
    unfold Packages.declaredItem at h
    rw [List.findSome?_cons, item?]
    cases hcut : Text.splitLast '/' path with
    | none =>
      rw [hcut] at h
      exact ih h
    | some cut =>
      obtain ⟨owner, name⟩ := cut
      rw [hcut] at h
      obtain ⟨decl, hdecl, h⟩ := except_bind_ok.mp h
      dsimp only
      rw [Option.bind_some, declared_plain_ok hdecl]
      cases decl with
      | some decl => exact Except.ok.inj h
      | none => exact ih h

theorem declaredItem_plain (hopen : w.files.isOpen) (paths : List String) :
    w.plain.declaredItem paths = .ok (paths.findSome? w.item?) := by
  cases h : w.plain.declaredItem paths with
  | ok found => rw [declaredItem_plain_ok h]
  | error e =>
    exact absurd (Packages.declaredItem_error (P := w.Unlisted) (fun _ _ _ => unlisted_of_declared) h)
      (not_unlisted hopen e)

/-! ### A search finds what the name means -/

theorem location_of_importedAs {package name path : String} (h : path ∈ w.importedAs package name) :
    (w.location? package).isSome := by
  cases hlocation : w.location? package with
  | some location => rfl
  | none =>
    unfold importedAs unitsOf at h
    rw [hlocation] at h
    cases h

/-- What a package answers that it imports under a name. -/
theorem imported_getD {package name : String} {paths : Option (List String)}
    (h : w.plain.imported package name = .ok paths) :
    paths.getD [] = w.importedAs package name := by
  rw [imported_plain_ok h]
  split
  · rename_i hnil
    exact hnil.symm
  · rfl

/-- **What a search finds is the declaration that the name means.** -/
theorem means_of_finds {name package owner : String} {decl : TypeDecl}
    (h : w.plain.Finds name package decl owner) : w.Means name package decl owner := by
  cases h with
  | own hname hown =>
    exact .own (Text.splitLast_eq_none_iff.mp hname) (declared_plain_ok hown)
  | item hname hown hitems hitem =>
    rw [imported_getD hitems] at hitem
    obtain ⟨before, path, after, hpaths, hitem, hbefore⟩ :=
      List.findSome?_eq_some_iff.mp (declaredItem_plain_ok hitem)
    exact .item (Text.splitLast_eq_none_iff.mp hname) (declared_plain_ok hown) hpaths
      (item?_eq_some_iff.mp hitem) fun other hother => item?_eq_none_iff.mp (hbefore other hother)
  | full hname hfull =>
    obtain ⟨hname, hbare⟩ := Text.splitLast_eq_some_iff.mp hname
    exact .full hname hbare (declared_plain_ok hfull)
  | imported hname hfull hpath hpackages hfound =>
    obtain ⟨hname, hbare⟩ := Text.splitLast_eq_some_iff.mp hname
    have hpackages := imported_getD hpackages
    rw [Option.getD_some] at hpackages
    rw [hpackages] at hfound
    obtain ⟨before, first, after, hsplit, hfirst, hbefore⟩ :=
      List.findSome?_eq_some_iff.mp (declaredIn_plain_ok hfound)
    obtain ⟨decl', hdecl, heq⟩ := Option.map_eq_some_iff.mp hfirst
    cases heq
    exact .imported hname hbare (declared_plain_ok hfull) (isPackagePath_eq_false_iff.mp hpath) hsplit
      hdecl fun other hother => Option.map_eq_none_iff.mp (hbefore other hother)

/-- **Where all directories can be listed, a search finds the declaration that the name means.** -/
theorem finds_of_means (hopen : w.files.isOpen) {name package owner : String} {decl : TypeDecl}
    (h : w.Means name package decl owner) : w.plain.Finds name package decl owner := by
  cases h with
  | own hname hdecl =>
    exact .own (Text.splitLast_eq_none_iff.mpr hname) (declared_plain_some hdecl)
  | @item before after path _ _ hname hown hpaths hitem hbefore =>
    have hpath : path ∈ w.importedAs package name := by simp [hpaths]
    have hlocation := location_of_importedAs hpath
    have hitems := imported_plain hopen hlocation name
    refine .item (Text.splitLast_eq_none_iff.mpr hname) (by rw [declared_plain hopen, hown])
      hitems ?_
    rw [imported_getD hitems, declaredItem_plain hopen]
    exact congrArg Except.ok (List.findSome?_eq_some_iff.mpr ⟨before, path, after, hpaths,
      item?_eq_some_iff.mpr hitem, fun other hother => item?_eq_none_iff.mpr (hbefore other hother)⟩)
  | full hname hbare hdecl =>
    exact .full (Text.splitLast_eq_some_iff.mpr ⟨hname, hbare⟩) (declared_plain_some hdecl)
  | @imported qualifier bare before after _ _ hname hbare hfull hplain hpackages hdecl hbefore =>
    have howner : owner ∈ w.importedAs package qualifier := by simp [hpackages]
    have hlocation := location_of_importedAs howner
    have himported := imported_plain hopen hlocation qualifier
    rw [if_neg (by simp [hpackages])] at himported
    refine .imported (Text.splitLast_eq_some_iff.mpr ⟨hname, hbare⟩)
      (by rw [declared_plain hopen, hfull]) (isPackagePath_eq_false_iff.mpr hplain) himported ?_
    rw [declaredIn_plain hopen]
    exact congrArg Except.ok (List.findSome?_eq_some_iff.mpr ⟨before, owner, after, hpackages,
      by rw [hdecl]; rfl, fun other hother => by rw [hbefore other hother]; rfl⟩)

theorem Means.declared {name package owner : String} {decl : TypeDecl}
    (h : w.Means name package decl owner) : w.declared? owner decl.name = some decl := by
  have own : ∀ {package bare : String}, w.declared? package bare = some decl →
      w.declared? package decl.name = some decl := fun h => by rwa [name_of_declared? h]
  cases h with
  | own _ hdecl => exact own hdecl
  | item _ _ _ hitem _ =>
    obtain ⟨_, _, _, hdecl⟩ := hitem
    exact own hdecl
  | full _ _ hdecl => exact own hdecl
  | imported _ _ _ _ _ hdecl _ => exact own hdecl

/-! ### Failing searches -/

theorem findPlain_error (hopen : w.files.isOpen) {name package : String} {e : Error}
    (hpackage : (w.location? package).isSome) (h : w.plain.findPlain name package = .error e) :
    e = .modelNotFound name package := by
  rw [Packages.findPlain, declared_plain hopen] at h
  cases hown : w.declared? package name with
  | some decl =>
    rw [hown] at h
    cases h
  | none =>
    rw [hown] at h
    change (w.plain.imported package name >>= _) = _ at h
    rw [imported_plain hopen hpackage] at h
    change (w.plain.declaredItem _ >>= _) = _ at h
    rw [declaredItem_plain hopen] at h
    generalize List.findSome? w.item? _ = found at h
    cases found with
    | some found => cases h
    | none =>
      cases h
      rfl

/-- A search for a qualified name blames the import if the qualifier could only be one and there is
none. -/
theorem findQualified_error (hopen : w.files.isOpen) {qualifier bare whole package : String}
    {e : Error} (hpackage : (w.location? package).isSome)
    (h : w.plain.findQualified qualifier bare whole package = .error e) :
    (IsPlain qualifier ∧ w.importedAs package qualifier = [] ∧
      e = .importNotFound qualifier package) ∨
    (¬ (IsPlain qualifier ∧ w.importedAs package qualifier = []) ∧
      e = .modelNotFound whole package) := by
  rw [Packages.findQualified, declared_plain hopen] at h
  cases hfull : w.declared? qualifier bare with
  | some decl =>
    rw [hfull] at h
    cases h
  | none =>
    rw [hfull] at h
    cases hpath : Packages.isPackagePath qualifier with
    | true =>
      rw [hpath] at h
      cases h
      refine Or.inr ⟨fun hboth => ?_, rfl⟩
      rw [isPackagePath_eq_false_iff.mpr hboth.1] at hpath
      cases hpath
    | false =>
      rw [hpath] at h
      change (w.plain.imported package qualifier >>= _) = _ at h
      rw [imported_plain hopen hpackage] at h
      by_cases hnil : w.importedAs package qualifier = []
      · rw [if_pos hnil] at h
        cases h
        exact Or.inl ⟨isPackagePath_eq_false_iff.mp hpath, hnil, rfl⟩
      · rw [if_neg hnil] at h
        change (w.plain.declaredIn bare _ >>= _) = _ at h
        rw [declaredIn_plain hopen] at h
        generalize List.findSome? _ _ = found at h
        cases found with
        | some found => cases h
        | none =>
          cases h
          exact Or.inr ⟨fun hboth => hnil hboth.2, rfl⟩

/-- A package imports nothing under the qualifier of a name that could only be an import. -/
theorem unimported_iff {qualifier bare package other : String} (hbare : '.' ∉ bare.toList) :
    w.Unimported (qualifier ++ "." ++ bare) package other ↔
      other = qualifier ∧ IsPlain qualifier ∧ w.importedAs package qualifier = [] := by
  constructor
  · rintro ⟨hplain, hnil, bare', hname, hbare'⟩
    have hcut : ∀ {a b : String}, '.' ∉ b.toList → Text.splitLast '.' (a ++ "." ++ b) = some (a, b) :=
      fun hb => Text.splitLast_eq_some_iff.mpr ⟨rfl, hb⟩
    have hsame := (hcut hbare').symm.trans ((congrArg _ hname.symm).trans (hcut hbare))
    cases hsame
    exact ⟨rfl, hplain, hnil⟩
  · rintro ⟨rfl, hplain, hnil⟩
    exact ⟨hplain, hnil, bare, rfl, hbare⟩

/-- **Where the package has a location, a search that fails blames the import or the type.** -/
theorem find_error (hopen : w.files.isOpen) {name package : String} {e : Error}
    (hpackage : (w.location? package).isSome) (h : w.plain.find name package = .error e) :
    (∃ qualifier, w.Unimported name package qualifier ∧ e = .importNotFound qualifier package) ∨
      ((∀ qualifier, ¬ w.Unimported name package qualifier) ∧ e = .modelNotFound name package) := by
  unfold Packages.find at h
  cases hname : Text.splitLast '.' name with
  | none =>
    rw [hname] at h
    refine Or.inr ⟨?_, findPlain_error hopen hpackage h⟩
    rintro qualifier ⟨-, -, bare, rfl, hbare⟩
    exact absurd hname (by simp [Text.splitLast_eq_none_iff])
  | some cut =>
    obtain ⟨qualifier, bare⟩ := cut
    rw [hname] at h
    obtain ⟨rfl, hbare⟩ := Text.splitLast_eq_some_iff.mp hname
    rcases findQualified_error hopen hpackage h with ⟨hplain, hnil, rfl⟩ | ⟨hnot, rfl⟩
    · exact Or.inl ⟨qualifier, (unimported_iff hbare).mpr ⟨rfl, hplain, hnil⟩, rfl⟩
    · refine Or.inr ⟨fun other hother => hnot ((unimported_iff hbare).mp hother).2, rfl⟩

end Workspace

open Workspace

/-- **What a name means.**  Whatever has been asked before, a search finds the declaration that the
name means, which is declared by the package where it is found and found again under its full name
from every package.  Where all directories can be listed, the search finds whatever the name means;
and if it fails from a package that has a location, it blames the import if the name has a qualifier
that could only be one and the package imports nothing under it, and the type otherwise. -/
theorem findDefinition_means (w : Workspace) (history : List Request) (name package : String) :
    let answer := (w.findDefinition name package (w.after history)).1
    (∀ decl owner, answer = .ok (decl, owner) → w.Means name package decl owner ∧
        w.declared? owner decl.name = some decl ∧
        ∀ history' package', (w.findDefinition (owner ++ "." ++ decl.name) package'
          (w.after history')).1 = .ok (decl, owner)) ∧
      (w.files.isOpen → (∀ decl owner, w.Means name package decl owner → answer = .ok (decl, owner)) ∧
        ((w.location? package).isSome → ∀ e, answer = .error e →
          (∃ qualifier, w.Unimported name package qualifier ∧
            e = .importNotFound qualifier package) ∨
          ((∀ qualifier, ¬ w.Unimported name package qualifier) ∧
            e = .modelNotFound name package))) := by
  have hanswer : ∀ history name package,
      (w.findDefinition name package (w.after history)).1 = w.plain.find name package :=
    fun history name package =>
      (gives_findDefinition name package _ (coherent_after w history)).1
  intro answer
  refine ⟨fun decl owner hok => ?_, fun hopen =>
    ⟨fun decl owner hmeans => ?_, fun hpackage e herror => ?_⟩⟩
  · have hmeans := means_of_finds (Packages.find_ok.mp ((hanswer _ _ _).symm.trans hok))
    have hdeclared := hmeans.declared
    have hdotless : Text.Dotless decl.name :=
      Declares.dotless (d := ⟨decl, owner⟩) ⟨name, package, found_of_findDefinition hok⟩
    refine ⟨hmeans, hdeclared, fun history' package' => ?_⟩
    have hfull : Text.splitLast '.' (owner ++ "." ++ decl.name) = some (owner, decl.name) :=
      Text.splitLast_eq_some_iff.mpr ⟨rfl, hdotless⟩
    rw [hanswer]
    exact Packages.find_ok.mpr (.full hfull (declared_plain_some hdeclared))
  · exact (hanswer _ _ _).trans (Packages.find_ok.mpr (finds_of_means hopen hmeans))
  · exact find_error hopen hpackage ((hanswer history name package).symm.trans herror)

/-- A shop whose files import two packages under one name and an item of the second by name; only the
second declares anything. -/
def aliasedShop : Workspace where
  search := { roots := ["/"] }
  files := { root := .dir [("src", .dir [
    ("base", .dir [("base.go", .text "package base\n")]),
    ("shop", .dir [
      ("a.go", .text "package shop\n\nimport m \"base\"\n"),
      ("b.go", .text "package shop\n\nimport m \"stock\"\nimport \"stock/Item\"\n")]),
    ("stock", .dir [("stock.go", .text
      "package stock\n\ntype Item struct \x7b\n\tId int\n\x7d\n")])])] }

def stockItem : TypeDecl where
  name := "Item"
  kind := .struct [{ name := some "Id", type := .named none "int" }]

/-- The item is found with the second package under the name, and as an item; of what is not imported
the import is blamed. -/
theorem findDefinition_means_item :
    aliasedShop.files.isOpen ∧
      aliasedShop.Means "m.Item" "shop" stockItem "stock" ∧
      aliasedShop.Means "Item" "shop" stockItem "stock" ∧
      (∀ history package', (aliasedShop.findDefinition "stock.Item" package'
        (aliasedShop.after history)).1 = .ok (stockItem, "stock")) ∧
      (aliasedShop.location? "shop").isSome ∧
      (aliasedShop.findDefinition "n.Item" "shop" (aliasedShop.after [])).1 =
        .error (.importNotFound "n" "shop") := by
  have hopen : aliasedShop.files.isOpen := by decide +kernel
  -- The answers are evaluated together, so that the sources are read once.
  have hanswers :
      (aliasedShop.findDefinition "m.Item" "shop" (aliasedShop.after [])).1.toOption =
          some (stockItem, "stock") ∧
        (aliasedShop.findDefinition "Item" "shop" (aliasedShop.after [])).1.toOption =
          some (stockItem, "stock") ∧
        (aliasedShop.findDefinition "n.Item" "shop" (aliasedShop.after [])).1.toOption = none ∧
        (aliasedShop.location? "shop").isSome ∧ aliasedShop.importedAs "shop" "n" = [] := by
    decide +kernel
  obtain ⟨hqualified, hplain, hmissing, hlocation, hnil⟩ := hanswers
  have hqualified := except_of_toOption hqualified
  obtain ⟨hmeans, -, hagain⟩ := (findDefinition_means aliasedShop [] "m.Item" "shop").1 _ _ hqualified
  have hitem := (findDefinition_means aliasedShop [] "Item" "shop").1 _ _ (except_of_toOption hplain)
  have hfails := ((findDefinition_means aliasedShop [] "n.Item" "shop").2 hopen).2
  refine ⟨hopen, hmeans, hitem.1, hagain, hlocation, ?_⟩
  have hbare : '.' ∉ "Item".toList := by decide
  have hblamed : aliasedShop.Unimported ("n" ++ "." ++ "Item") "shop" "n" :=
    (unimported_iff hbare).mpr ⟨rfl, by unfold IsPlain; decide, hnil⟩
  cases hanswer : (aliasedShop.findDefinition "n.Item" "shop" (aliasedShop.after [])).1 with
  | ok found =>
    rw [hanswer] at hmissing
    cases hmissing
  | error e =>
    rcases hfails hlocation e hanswer with ⟨qualifier, hunimported, rfl⟩ | ⟨hnone, -⟩
    · have hsplit : aliasedShop.Unimported ("n" ++ "." ++ "Item") "shop" qualifier := hunimported
      obtain ⟨rfl, -⟩ := (unimported_iff hbare).mp hsplit
      rfl
    · exact absurd hblamed (hnone "n")

end ApiScribe
