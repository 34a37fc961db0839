import ApiScribe.Proofs.Model.Shadowing

/-!
# Structs by their names

What a name stands for is decided by its spelling before anything is searched for.  A name that no
table tells, and in which the word `interface` does not occur, stands for the struct that is found
under it, in directives as in fields; the word makes it an untyped value.

* `TypeName.Untabled` — neither the table of basic types nor the overrides tell a name;
* `Workspace.Resolvable` — everything is found that a name needs;
* `resolveType_struct` — what the name of a struct is resolved to, and what a field of that type shows.
-/

namespace ApiScribe

/-! ### Names that no table tells -/

namespace TypeName

/-- The word for an untyped value occurs in a name. -/
def MentionsInterface (name : String) : Prop := "interface".toList <:+: name.toList

instance (name : String) : Decidable (MentionsInterface name) :=
  decidable_of_iff (Text.occurs "interface".toList name.toList = true) Text.occurs_iff

/-- Neither the table of basic types nor the overrides tell what a name stands for. -/
structure Untabled (overrides : Overrides) (name : String) : Prop where
  basic : name ∉ basicTable
  time : name ≠ "time.Time"
  any : name ≠ "any"
  full : overrides.get? name = none
  bare : overrides.get? (bare name) = none

variable {overrides : Overrides} {name : String}

theorem Untabled.isInterface_iff (h : Untabled overrides name) :
    isInterface name ↔ MentionsInterface name := by
  simp [isInterface, h.any, Text.occurs_iff, MentionsInterface]

theorem Untabled.primitive?_eq (h : Untabled overrides name) :
    primitive? overrides name = if MentionsInterface name then some name else none := by
  have hbasic : isBasic name ↔ MentionsInterface name := by
    simp [isBasic, h.basic, h.time, h.isInterface_iff]
  have hnormal : normalize name = name := if_neg h.time
  unfold primitive?
  rw [h.full, h.bare]
  simp [hbasic, hnormal]

theorem Untabled.ofName_eq (h : Untabled overrides name) :
    Shape.ofName overrides name =
      if MentionsInterface name then .interface else .reference name := by
  unfold Shape.ofName
  simp only [h.isInterface_iff, h.primitive?_eq]
  split <;> rfl

end TypeName

/-! ### What is needed is found -/

namespace Workspace

variable {w : Workspace} {overrides : Overrides} {name package : String}

/-- Everything is found that a name in a package needs, the name itself included. -/
def Resolvable (w : Workspace) (overrides : Overrides) (name package : String) : Prop :=
  ∀ q, Relation.ReflTransGen (w.Needs overrides) (name, package) q → ∃ d, w.found q.1 q.2 = .ok d

/-- Names of which each is found, and needs none but those of them. -/
theorem resolvable_of_closed {ps : List (String × String)}
    (h : ∀ p ∈ ps, ∃ d, w.found p.1 p.2 = .ok d ∧
      ∀ target ∈ d.needs overrides, (target, d.package) ∈ ps)
    (hp : (name, package) ∈ ps) : w.Resolvable overrides name package := by
  have hclosed : ∀ q, Relation.ReflTransGen (w.Needs overrides) (name, package) q → q ∈ ps := by
    intro q hq
    induction hq with
    | refl => exact hp
    | @tail p q _ hneeds ih =>
      obtain ⟨d, hd, htarget, hpackage⟩ := hneeds
      obtain ⟨e, he, hmem⟩ := h p ih
      rw [hd] at he
      cases he
      have hpair : q = (q.1, d.package) := by rw [← hpackage]
      rw [hpair]
      exact hmem q.1 htarget
  intro q hq
  obtain ⟨d, hd, -⟩ := h q (hclosed q hq)
  exact ⟨d, hd⟩

theorem Resolvable.not_missesFrom (h : w.Resolvable overrides name package) (e : Error) :
    ¬ w.MissesFrom overrides name package e := by
  rintro ⟨q, hpath, hq⟩
  obtain ⟨d, hd⟩ := h q hpath
  cases hd.symm.trans hq

end Workspace

/-! ### What a name is resolved to -/

/-- What is answered of a type that turns out so. -/
def Outcome.resolved : Outcome → Resolved
  | primitive name _ => .primitive name
  | built model inner => .model model.model (Model.dedup (inner.map Sketch.model))
  | reference d => .model { id := d.modelId } []

section

variable {w : Workspace} {overrides : Overrides} {name package : String} {d : Declared}

theorem resolveType_eq (m : Memory) : (w.resolveType overrides name package m).1 =
    (Build.start w overrides name package m).1.map Outcome.resolved := by
  unfold Workspace.resolveType
  rw [session_bind]
  generalize Build.start w overrides name package m = y
  obtain ⟨_ | outcome, m'⟩ := y
  · rfl
  · cases outcome <;> rfl

/-- A name that stands for a primitive is not searched for, whatever the calls below are. -/
theorem resolve_of_primitive {primitive : String}
    (h : TypeName.primitive? overrides name = some primitive) (below : Build.Calls) (depth : ℕ)
    (trail : Trail) (done : List String) (m : Memory) :
    (Build.callsAbove w overrides below (depth + 1)).resolve trail name package done m =
      some (.ok (.primitive primitive none, done), m) := by
  show Build.resolve w overrides _ trail name package done m = _
  unfold Build.resolve
  rw [h]
  rfl

theorem start_of_primitive {primitive : String}
    (h : TypeName.primitive? overrides name = some primitive) (m : Memory) :
    (Build.start w overrides name package m).1 = .ok (.primitive primitive none) := by
  show ((((Build.callsAbove w overrides _ 1000).resolve {} name package).run' [] m).getD _).1 = _
  rw [Build.run'_eq, resolve_of_primitive h]
  rfl

theorem Denotes.eq_model {c : Content} (h : Denotes w overrides name package c)
    (hname : TypeName.primitive? overrides name = none) (hfound : w.found name package = .ok d)
    (hrole : d.role overrides = .model) : c = .model d := by
  cases h with
  | primitive hname' => cases hname.symm.trans hname'
  | declared _ hfound' =>
    cases hfound.symm.trans hfound'
    rfl
  | synonym _ hfound' hrole' =>
    cases hfound.symm.trans hfound'
    cases hrole.symm.trans hrole'
  | follow _ hfound' hrole' =>
    cases hfound.symm.trans hfound'
    cases hrole.symm.trans hrole'

end

/-! ### What a field shows -/

/-- In the model of a struct, the fields of a named type show its text, and the arrays and maps of it
have its items. -/
structure Model.Shows (m : Model) (overrides : Overrides) (fields : List FieldDecl)
    (name text : String) (items : Items) : Prop where
  single : ∀ k f q n, FieldDecl.lastShown? overrides fields k = some f → f.type = .named q n →
    TypeName.full q n = name →
    m.properties.get? k = some { type := text, description := f.hints.description.getD "" }
  many : ∀ k f q n, FieldDecl.lastShown? overrides fields k = some f →
    f.type = .array (.named q n) ∨ f.type = .map (.named q n) → TypeName.full q n = name →
    m.properties.get? k =
      some { Property.ofItems items with description := f.hints.description.getD "" }

section

variable {overrides : Overrides} {name : String} {f : FieldDecl} {q : Option String} {n : String}

/-- What a property holds that a field of a named type gives. -/
def TypeName.content (name : String) : Content :=
  if MentionsInterface name then .primitive "interface" else .pending name

/-- What a field gives whose type, or the items of it, are spelled so. -/
theorem partOf?_of_shape (h : TypeName.Untabled overrides name) {inItems : Bool}
    (hshape : Shape.ofType overrides f.type =
      if inItems then .many (Shape.ofName overrides name) else .single (Shape.ofName overrides name)) :
    Sketch.partOf? overrides f = some
      { content := TypeName.content name, inItems, description := f.hints.description.getD "" } := by
  unfold Sketch.partOf? TypeName.content
  rw [hshape, h.ofName_eq]
  by_cases hmention : TypeName.MentionsInterface name
  · cases inItems <;> simp [hmention]
  · cases inItems <;> simp [hmention]

theorem partOf?_of_named (h : TypeName.Untabled overrides name) (htype : f.type = .named q n)
    (hfull : TypeName.full q n = name) : Sketch.partOf? overrides f = some
      { content := TypeName.content name, description := f.hints.description.getD "" } := by
  refine partOf?_of_shape h ?_
  rw [htype, ← hfull]
  rfl

theorem partOf?_of_collection (h : TypeName.Untabled overrides name)
    (htype : f.type = .array (.named q n) ∨ f.type = .map (.named q n))
    (hfull : TypeName.full q n = name) : Sketch.partOf? overrides f = some
      { content := TypeName.content name, inItems := true,
        description := f.hints.description.getD "" } := by
  refine partOf?_of_shape h ?_
  rcases htype with htype | htype <;> rw [htype, ← hfull] <;> rfl

end

section

variable {w : Workspace} {overrides : Overrides} {name : String} {d : Declared}

/-- The content of a field is resolved to the model of its struct, unless it is an untyped value. -/
theorem Sketch.Merges.shows {owner : Declared} {fields : List FieldDecl} {embedded : List Sketch}
    {s : Sketch} (h : s.Merges w overrides owner fields embedded)
    (hname : TypeName.Untabled overrides name) (hfound : w.found name owner.package = .ok d)
    (hrole : d.role overrides = .model) {k : String} {f : FieldDecl} {p : Part}
    (hlast : FieldDecl.lastShown? overrides fields k = some f)
    (hpart : Sketch.partOf? overrides f = some p) (hcontent : p.content = TypeName.content name) :
    s.model.properties.get? k = some (Part.property { p with
      content := if TypeName.MentionsInterface name then .primitive "interface" else .model d }) := by
  obtain ⟨meaning, hmeaning, hproperties⟩ := h.properties
  have hown : ((FieldDecl.lastShown? overrides fields k).bind (Sketch.partOf? overrides)) =
      some p := by
    rw [hlast, Option.bind_some, hpart]
  rw [Sketch.get?_model, hproperties, hown, Option.map_some, Option.some_or, Option.map_some]
  unfold TypeName.content at hcontent
  by_cases hmention : TypeName.MentionsInterface name
  · rw [if_pos hmention] at hcontent ⊢
    have hresolved : p.content.pending? = none := by rw [hcontent]; rfl
    rw [Part.settleBy_of_pending? hresolved, ← hcontent]
  · rw [if_neg hmention] at hcontent ⊢
    have htypeName : name ∈ (Sketch.ofFields overrides owner fields).typeNames :=
      Sketch.mem_typeNames.mpr ⟨k, p, (Sketch.get?_ofFields owner fields k).trans hown, hcontent⟩
    have hmodel : meaning name = .model d :=
      (hmeaning name htypeName).eq_model (hname.primitive?_eq.trans (if_neg hmention)) hfound hrole
    unfold Part.settleBy
    rw [hcontent]
    simp only [hmodel]

/-- **A model of a struct shows a field of another struct's type as a reference to its model**, or as
an untyped value if the word for that occurs in the name. -/
theorem Flattening.Of.shows {chain : List String} {owner : Declared} {t : Flattening}
    (h : Flattening.Of w overrides chain owner t) {fields : List FieldDecl}
    (hkind : owner.decl.kind = .struct fields) (hname : TypeName.Untabled overrides name)
    (hfound : w.found name owner.package = .ok d) (hrole : d.role overrides = .model) :
    t.model.Shows overrides fields name
      (if TypeName.MentionsInterface name then "interface" else d.modelId)
      (if TypeName.MentionsInterface name then .primitive "interface" else .model d.modelId) := by
  obtain ⟨ts, -, -, hmerges⟩ := h.of_struct hkind
  constructor
  · intro k f q n hlast htype hfull
    rw [Flattening.model,
      hmerges.shows hname hfound hrole hlast (partOf?_of_named hname htype hfull) rfl]
    split <;> rfl
  · intro k f q n hlast htype hfull
    rw [Flattening.model,
      hmerges.shows hname hfound hrole hlast (partOf?_of_collection hname htype hfull) rfl]
    split <;> rfl

/-- **A declared struct is a model, unless its name mentions an interface.**  Let a struct be found
under a name that no table tells.  If the word `interface` does not occur in the name, then the name
resolves to a model with the id of the struct, or fails with the error of a search for something that
the struct needs; and in the models of structs where the name means the struct, the fields of that
type refer to this id.  If the word occurs, the name itself is answered as a primitive, and the fields
are shown as untyped values. -/
theorem resolveType_struct (w : Workspace) (overrides : Overrides) (history : List Request)
    (name package : String) {d : Declared} {fields : List FieldDecl}
    (hfound : (w.findDefinition name package (w.after history)).1 = .ok (d.decl, d.package))
    (hkind : d.decl.kind = .struct fields) (hname : TypeName.Untabled overrides name) :
    (¬ TypeName.MentionsInterface name →
      (∀ resolved, (w.resolveType overrides name package (w.after history)).1 = .ok resolved →
        ∃ model inner, resolved = .model model inner ∧ model.id = d.modelId) ∧
      (∀ e, (w.resolveType overrides name package (w.after history)).1 = .error e →
        ∃ target ∈ d.needs overrides, w.MissesFrom overrides target d.package e) ∧
      ((∀ target ∈ d.needs overrides, w.Resolvable overrides target d.package) → ∃ model inner,
        (w.resolveType overrides name package (w.after history)).1 = .ok (.model model inner) ∧
          model.id = d.modelId)) ∧
    (TypeName.MentionsInterface name →
      (w.resolveType overrides name package (w.after history)).1 = .ok (.primitive name)) ∧
    ∀ owner ownerPackage e es model inner,
      (w.findDefinition owner ownerPackage (w.after history)).1 = .ok (e.decl, e.package) →
      e.decl.kind = .struct es →
      (w.resolveModel overrides owner ownerPackage (w.after history)).1 = .ok (model, inner) →
      ∃ root rest, (w.expand overrides owner ownerPackage (w.after history)).1 = .ok (root, rest) ∧
        root.id = e ∧ model = root.model ∧ inner = rest.map Sketch.model ∧
        ∀ s ∈ root :: rest, ∀ fs, s.id.decl.kind = .struct fs →
          (w.findDefinition name s.id.package (w.after history)).1 = .ok (d.decl, d.package) →
          s.model.Shows overrides fs name
            (if TypeName.MentionsInterface name then "interface" else d.modelId)
            (if TypeName.MentionsInterface name then .primitive "interface"
              else .model d.modelId) := by
  have hm := coherent_after w history
  have hfound := found_of_findDefinition hfound
  have hrole : d.role overrides = .model :=
    Declared.role_of_kind fun _ h => nomatch hkind.symm.trans h
  have hprimitive := hname.primitive?_eq
  refine ⟨fun hmention => ?_, fun hmention => ?_,
    fun owner ownerPackage e es model inner howner hes h => ?_⟩
  · rw [if_neg hmention] at hprimitive
    rw [resolveType_eq]
    rcases Build.start_decided w overrides name package with
      ⟨outcome, done, hrun, hstart⟩ | ⟨e, hmissed, hstart⟩
    · obtain ⟨_, root, rest, rfl, hroot⟩ := (hrun.of_model hfound hrole).resolve_left
        fun ⟨_, h, _⟩ => nomatch hprimitive.symm.trans h
      have hid : root.model.id = d.modelId := congrArg Declared.modelId hroot
      rw [(hstart _ hm).1]
      refine ⟨fun resolved h => ?_, fun _ h => (nomatch h), fun _ => ⟨root.model, _, rfl, hid⟩⟩
      cases h
      exact ⟨root.model, _, rfl, hid⟩
    · obtain ⟨target, htarget, hbelow⟩ := hmissed.below hfound
      rw [(hstart _ hm).1]
      refine ⟨fun _ h => (nomatch h), fun e' h => ?_, fun hneeds => ?_⟩
      · cases h
        exact ⟨target, htarget, hbelow⟩
      · exact absurd hbelow ((hneeds target htarget).not_missesFrom e)
  · rw [if_pos hmention] at hprimitive
    rw [resolveType_eq, start_of_primitive hprimitive]
    rfl
  · obtain ⟨root, rest, hexpand, hroot, hmodel, hinner, hall⟩ := resolveModel_struct howner hes h
    refine ⟨root, rest, hexpand, hroot, hmodel, hinner, fun s hs fs hfs hmeans => ?_⟩
    obtain ⟨t, ht, rfl⟩ := hall s hs
    exact ht.shows hfs hname (found_of_findDefinition hmeans) hrole

end

/-! ### A struct whose name mentions an interface -/

/-- A site and its pages, which belong to a struct with an unlucky name. -/
def site : Workspace where
  search := { roots := ["/"] }
  files := { root := .dir [("src", .dir [("shop", .dir [("shop.go", .text
    ("package shop\n\ntype Userinterface struct \x7b\n\tName string\n\x7d\n\n" ++
      "type Page struct \x7b\n\tOwner Userinterface\n\tSite *Site\n\x7d\n\n" ++
      "type Site struct \x7b\n\tHome Page\n\tPages []Page\n\x7d\n"))])])] }

def userinterface : Declared where
  decl := { name := "Userinterface",
            kind := .struct [{ name := some "Name", type := .named none "string" }] }
  package := "shop"

def pageFields : List FieldDecl :=
  [{ name := some "Owner", type := .named none "Userinterface" },
    { name := some "Site", type := .named none "Site" }]

def page : Declared where
  decl := { name := "Page", kind := .struct pageFields }
  package := "shop"

def siteFields : List FieldDecl :=
  [{ name := some "Home", type := .named none "Page" },
    { name := some "Pages", type := .array (.named none "Page") }]

def siteStruct : Declared where
  decl := { name := "Site", kind := .struct siteFields }
  package := "shop"

def pageModel : Model where
  id := "shop.Page"
  properties := KeyMap.ofList [("Owner", { type := "interface" }), ("Site", { type := "shop.Site" })]

def siteModel : Model where
  id := "shop.Site"
  properties := KeyMap.ofList
    [("Home", { type := "shop.Page" }), ("Pages", .ofItems (.model "shop.Page"))]

-- The answers are evaluated together, so that the source is read once.
theorem site_answers :
    (site.findDefinition "Userinterface" "shop" (site.after [])).1.toOption =
        some (userinterface.decl, userinterface.package) ∧
      (site.findDefinition "Page" "shop" (site.after [])).1.toOption =
        some (page.decl, page.package) ∧
      (site.findDefinition "Site" "shop" (site.after [])).1.toOption =
        some (siteStruct.decl, siteStruct.package) ∧
      (site.resolveType ∅ "Userinterface" "shop" (site.after [])).1.toOption =
        some (.primitive "Userinterface") ∧
      (site.resolveModel ∅ "Page" "shop" (site.after [])).1.toOption =
        some (pageModel, [siteModel]) ∧
      (site.resolveModel ∅ "Site" "shop" (site.after [])).1.toOption =
        some (siteModel, [pageModel]) := by
  decide +kernel

theorem find_page :
    (site.findDefinition "Page" "shop" (site.after [])).1 = .ok (page.decl, page.package) :=
  except_of_toOption site_answers.2.1

theorem find_siteStruct :
    (site.findDefinition "Site" "shop" (site.after [])).1 =
      .ok (siteStruct.decl, siteStruct.package) :=
  except_of_toOption site_answers.2.2.1

/-- The page needs the site, and the site needs pages. -/
theorem resolvable_site : site.Resolvable ∅ "Site" "shop" := by
  have hpage : page.needs ∅ = ["Site"] := by decide +kernel
  have hsite : siteStruct.needs ∅ = ["Page"] := by decide +kernel
  have hstart : ("Site", "shop") ∈ [("Page", "shop"), ("Site", "shop")] := by decide
  refine Workspace.resolvable_of_closed ?_ hstart
  intro p hp
  rcases List.mem_pair.mp hp with rfl | rfl
  · refine ⟨page, found_of_findDefinition find_page, fun target htarget => ?_⟩
    rw [hpage] at htarget
    rw [List.mem_singleton.mp htarget]
    decide
  · refine ⟨siteStruct, found_of_findDefinition find_siteStruct, fun target htarget => ?_⟩
    rw [hsite] at htarget
    rw [List.mem_singleton.mp htarget]
    decide

/-- The page is a model, and the site refers to it. -/
theorem resolveType_struct_page :
    (site.findDefinition "Page" "shop" (site.after [])).1 = .ok (page.decl, page.package) ∧
      page.decl.kind = .struct pageFields ∧ TypeName.Untabled ∅ "Page" ∧
      (∃ model inner, (site.resolveType ∅ "Page" "shop" (site.after [])).1 =
        .ok (.model model inner) ∧ model.id = "shop.Page") ∧
      siteModel.properties.get? "Home" = some { type := "shop.Page" } ∧
      siteModel.properties.get? "Pages" = some (.ofItems (.model "shop.Page")) := by
  have hname : TypeName.Untabled ∅ "Page" :=
    ⟨by decide, by decide, by decide, rfl, rfl⟩
  have hneeds : ∀ target ∈ page.needs ∅, site.Resolvable ∅ target page.package := by
    have hpage : page.needs ∅ = ["Site"] := by decide +kernel
    rw [hpage]
    intro target htarget
    rw [List.mem_singleton.mp htarget]
    exact resolvable_site
  have hmention : ¬ TypeName.MentionsInterface "Page" := by decide +kernel
  obtain ⟨hmodel, -, hfields⟩ := resolveType_struct site ∅ [] "Page" "shop" find_page rfl hname
  obtain ⟨root, rest, -, hroot, hsite, -, hall⟩ := hfields "Site" "shop" siteStruct siteFields
    siteModel [pageModel] find_siteStruct rfl (except_of_toOption site_answers.2.2.2.2.2)
  have hshows := hall root List.mem_cons_self siteFields (by rw [hroot]; rfl)
    (by rw [hroot]; exact find_page)
  rw [if_neg hmention, if_neg hmention, ← hsite] at hshows
  exact ⟨find_page, rfl, hname, (hmodel hmention).2.2 hneeds,
    hshows.single "Home" siteFields[0] none "Page" (by decide +kernel) rfl rfl,
    hshows.many "Pages" siteFields[1] none "Page" (by decide +kernel) (Or.inl rfl) rfl⟩

/-- The struct with the unlucky name is found, but answered as a primitive and shown as an untyped
value. -/
theorem resolveType_struct_differs :
    ¬(∀ (w : Workspace) (overrides : Overrides) (name package : String) (d : Declared)
        (fields : List FieldDecl),
        (w.findDefinition name package {}).1 = .ok (d.decl, d.package) →
        d.decl.kind = .struct fields → TypeName.Untabled overrides name →
        (∀ target ∈ d.needs overrides, w.Resolvable overrides target d.package) →
        ∃ model inner, (w.resolveType overrides name package {}).1 = .ok (.model model inner) ∧
          model.id = d.modelId) ∧
      (site.resolveType ∅ "Userinterface" "shop" {}).1 = .ok (.primitive "Userinterface") ∧
      (site.resolveModel ∅ "Page" "shop" {}).1 = .ok (pageModel, [siteModel]) ∧
      pageModel.properties.get? "Owner" = some { type := "interface" } := by
  have hanswer : (site.resolveType ∅ "Userinterface" "shop" {}).1 =
      .ok (.primitive "Userinterface") := except_of_toOption site_answers.2.2.2.1
  refine ⟨fun hall => ?_, hanswer, except_of_toOption site_answers.2.2.2.2.1, by decide +kernel⟩
  have hneeds : userinterface.needs ∅ = [] := by decide +kernel
  obtain ⟨model, inner, hmodel, -⟩ := hall site ∅ "Userinterface" "shop" userinterface _
    (except_of_toOption site_answers.1) rfl ⟨by decide, by decide, by decide, rfl, rfl⟩
    (by rw [hneeds]; exact fun _ h => nomatch h)
  cases hanswer.symm.trans hmodel

end ApiScribe
