import ApiScribe.Proofs.Document.References
import ApiScribe.Proofs.Model.Context
import ApiScribe.Proofs.Source.Words
import Mathlib.Data.List.Find

/-!
# What the id of a model tells

* `resolution_distinct` — the models that one resolution brings have distinct ids;
* `TypeName.modelId_eq_iff` — an id tells the name of a type, and the spelling of its package with dots
  for slashes;
* `modelId_identifies` — so types that can be found share an id just if they share a name and the
  spelling of their packages, and nothing that is keyed by ids takes other types for one.

Two directories may well be spelled alike, as `shop/eu` and `shop.eu` are: their types then count as
one (`modelId_confuses`).
-/

namespace ApiScribe

variable {w : Workspace} {overrides : Overrides}

/-! ### The models of one resolution -/

/-- A name in a package turns out to be a model, whichever way it is asked for. -/
def Workspace.Yields (w : Workspace) (overrides : Overrides) (name package : String) (m : Memory)
    (model : Model) (inner : List Model) : Prop :=
  (w.resolveModel overrides name package m).1 = .ok (model, inner) ∨
    (w.resolveType overrides name package m).1 = .ok (.model model inner)

theorem Workspace.Yields.expand {name package : String} {m : Memory} {model : Model}
    {inner : List Model} (h : w.Yields overrides name package m model inner) :
    ∃ root rest, (w.expand overrides name package m).1 = .ok (root, rest) ∧ model = root.model ∧
      inner = Model.dedup (rest.map Sketch.model) := by
  rcases h with h | h
  · rw [resolveModel_eq] at h
    obtain ⟨⟨root, rest⟩, hexpand, h⟩ := except_map_ok.mp h
    cases h
    exact ⟨root, rest, hexpand, rfl, rfl⟩
  · unfold resolveType at h
    unfold Workspace.expand
    rw [session_bind] at h ⊢
    generalize Build.start w overrides name package m = y at h ⊢
    obtain ⟨_ | outcome, m'⟩ := y
    · cases h
    · rcases outcome with ⟨_, _⟩ | d | ⟨root, rest⟩
      · cases h
      · cases h
        exact ⟨{ id := d }, [], rfl, rfl, rfl⟩
      · cases h
        exact ⟨root, rest, rfl, rfl, rfl⟩

/-- **No model is built twice in one resolution.**  The ids of a model and of all that it brings are
distinct before any of them is left out, so none is. -/
theorem resolution_distinct (w : Workspace) (overrides : Overrides) (history : List Request)
    (name package : String) {model : Model} {inner : List Model}
    (h : w.Yields overrides name package (w.after history) model inner) :
    ∃ root rest, (w.expand overrides name package (w.after history)).1 = .ok (root, rest) ∧
      model = root.model ∧ inner = Model.dedup (rest.map Sketch.model) ∧
      (model.id :: (rest.map Sketch.model).map (·.id)).Nodup ∧
      Model.dedup (rest.map Sketch.model) = rest.map Sketch.model := by
  obtain ⟨root, rest, hexpand, hmodel, hinner⟩ := h.expand
  have hdistinct := expand_distinct (coherent_after w history) hexpand
  have hids : (model.id :: (rest.map Sketch.model).map (·.id)).Nodup := by
    rw [hmodel, List.map_map]
    exact hdistinct
  have hrest := (List.nodup_cons.mp hids).2
  exact ⟨root, rest, hexpand, hmodel, hinner, hids, Model.dedup_of_nodup hrest⟩

/-- A package in which an order embeds one struct on two ways and refers to it, and the struct refers
to the order. -/
def diamond : Workspace where
  search := { roots := ["/"] }
  files := { root := .dir [("src", .dir [("shop", .dir [("shop.go", .text
    ("package shop\n\ntype Order struct \x7b\n\tLeft\n\tRight\n\tFirst *Base\n\x7d\n" ++
      "\ntype Left struct \x7b\n\tBase\n\x7d\n\ntype Right struct \x7b\n\tBase\n\x7d\n" ++
      "\ntype Base struct \x7b\n\tIn *Order\n\x7d\n"))])])] }

/-- The struct on both ways has one model, though it is embedded twice and referred to. -/
theorem resolution_distinct_diamond :
    ∃ model inner, diamond.Yields ∅ "Order" "shop" (diamond.after []) model inner ∧
      model.id :: inner.map (·.id) = ["shop.Order", "shop.Base"] ∧
      ∃ root rest, (diamond.expand ∅ "Order" "shop" (diamond.after [])).1 = .ok (root, rest) ∧
        (model.id :: (rest.map Sketch.model).map (·.id)).Nodup := by
  have hids : ((diamond.resolveModel ∅ "Order" "shop" (diamond.after [])).1.toOption.map
      fun built => built.1.id :: built.2.map (·.id)) = some ["shop.Order", "shop.Base"] := by
    decide +kernel
  obtain ⟨⟨model, inner⟩, hanswer, hids⟩ := Option.map_eq_some_iff.mp hids
  have hyields : diamond.Yields ∅ "Order" "shop" (diamond.after []) model inner :=
    Or.inl (except_of_toOption hanswer)
  obtain ⟨root, rest, hexpand, -, -, hnodup, -⟩ :=
    resolution_distinct diamond ∅ [] "Order" "shop" hyields
  exact ⟨model, inner, hyields, hids, root, rest, hexpand, hnodup⟩

/-! ### Names and spellings of packages -/

namespace TypeName

/-- A package as ids spell it: with dots for slashes, and without slashes at its ends. -/
def dotted (package : String) : List Char :=
  (Text.strip (· == '/') package.toList).map fun c => if c = '/' then '.' else c

theorem front_eq (package : String) :
    front package = if dotted package = [] then [] else dotted package ++ ['.'] := by
  simp [front, dotted]

theorem takeWhile_modelId (package : String) {name : String} (h : Text.Dotless name) :
    (modelId package name).toList.reverse.takeWhile (· ≠ '.') = name.toList.reverse := by
  have hname : ∀ c ∈ name.toList.reverse, decide (c ≠ '.') = true := by
    intro c hc
    have hne : c ≠ '.' := fun heq => h (heq ▸ List.mem_reverse.mp hc)
    simpa using hne
  have hfront : (front package).reverse.takeWhile (· ≠ '.') = [] := by
    rw [front_eq]
    by_cases hdotted : dotted package = []
    · simp [hdotted]
    · simp [hdotted]
  rw [toList_modelId, List.reverse_append, List.takeWhile_append_of_pos hname, hfront,
    List.append_nil]

/-- **An id tells the name of the type and the spelling of its package**, and no more. -/
theorem modelId_eq_iff {p q n m : String} (hn : Text.Dotless n) (hm : Text.Dotless m) :
    modelId p n = modelId q m ↔ n = m ∧ dotted p = dotted q := by
  constructor
  · intro h
    have hnm : n = m := by
      apply String.toList_injective
      apply List.reverse_injective
      rw [← takeWhile_modelId p hn, ← takeWhile_modelId q hm, h]
    subst hnm
    have hlist := congrArg String.toList h
    rw [toList_modelId, toList_modelId] at hlist
    have hfront : front p = front q := List.append_cancel_right hlist
    refine ⟨rfl, ?_⟩
    rw [front_eq, front_eq] at hfront
    by_cases hp : dotted p = [] <;> by_cases hq : dotted q = []
    · rw [hp, hq]
    · simp [hp, hq] at hfront
    · simp [hp, hq] at hfront
    · simpa [hp, hq] using hfront
  · rintro ⟨rfl, hpq⟩
    apply String.toList_injective
    rw [toList_modelId, toList_modelId, front_eq, front_eq, hpq]

end TypeName

/-! ### Types that can be found -/

/-- What the id of a declaration tells: the spelling of its package, and its name. -/
def Declared.key (d : Declared) : List Char × String := (TypeName.dotted d.package, d.decl.name)

/-- The name of a type that stands in the files has no dot. -/
theorem Workspace.Declares.dotless {d : Declared} (h : w.Declares d) : Text.Dotless d.decl.name := by
  obtain ⟨name, package, hfound⟩ := h
  obtain ⟨u, hu, hdecl⟩ := List.mem_flatMap.mp (Workspace.decl_mem_declarations hfound)
  obtain ⟨source, -, hread⟩ := List.mem_filterMap.mp hu
  exact Language.dotless_of_mem_types (except_of_toOption hread) hdecl

theorem Workspace.Declares.modelId_eq_iff {d e : Declared} (hd : w.Declares d) (he : w.Declares e) :
    d.modelId = e.modelId ↔ d.key = e.key := by
  unfold Declared.modelId Declared.key
  rw [TypeName.modelId_eq_iff hd.dotless he.dotless, Prod.mk.injEq, and_comm]

theorem declared_ok {package bare : String} {decl : TypeDecl}
    (h : w.plain.declared package bare = .ok (some decl)) :
    decl.name = bare ∧ (w.location? package).isSome := by
  unfold Workspace.plain at h
  dsimp only at h
  cases hlocation : w.location? package with
  | none =>
    rw [hlocation] at h
    cases h
  | some location =>
    rw [hlocation] at h
    obtain ⟨us, -, hget⟩ := except_map_ok.mp h
    obtain ⟨d, -, heq⟩ := List.mem_map.mp (KeyMap.mem_of_get?_ofList hget)
    cases heq
    exact ⟨rfl, rfl⟩

theorem Workspace.Declares.location {d : Declared} (h : w.Declares d) :
    (w.location? d.package).isSome := by
  obtain ⟨name, package, hfound⟩ := h
  obtain ⟨bare, hd⟩ := (Workspace.found_ok.mp hfound).declared
  exact (declared_ok hd).2

theorem Workspace.Declares.decl_eq {d e : Declared} (hd : w.Declares d) (he : w.Declares e)
    (hname : d.decl.name = e.decl.name) (hlocation : w.location? d.package = w.location? e.package) :
    d.decl = e.decl := by
  obtain ⟨_, _, hd⟩ := hd
  obtain ⟨_, _, he⟩ := he
  obtain ⟨n, hd⟩ := (Workspace.found_ok.mp hd).declared
  obtain ⟨m, he⟩ := (Workspace.found_ok.mp he).declared
  have hnm : n = m := by
    rw [← (declared_ok hd).1, hname, (declared_ok he).1]
  have hsame : w.plain.declared d.package n = w.plain.declared e.package n := by
    unfold Workspace.plain
    dsimp only
    rw [hlocation]
  rw [hsame, hnm, he] at hd
  exact (Option.some.inj (Except.ok.inj hd)).symm

/-! ### Models that resolutions bring -/

/-- The sketch is among those that some resolution brings. -/
def Workspace.Brings (w : Workspace) (overrides : Overrides) (s : Sketch) : Prop :=
  ∃ history name package root rest,
    (w.expand overrides name package (w.after history)).1 = .ok (root, rest) ∧ s ∈ root :: rest

/-- Each model that a resolution brings is that of a type that can be found. -/
theorem Workspace.Brings.declares {s : Sketch} (h : w.Brings overrides s) : w.Declares s.id := by
  obtain ⟨history, name, package, root, rest, hexpand, hs⟩ := h
  obtain ⟨outcome, done, hstart, hrun, hbuilt⟩ := expand_ok (coherent_after w history) hexpand
  rcases hbuilt with rfl | ⟨-, rfl, -⟩
  · exact hrun.complete.holds s hs
  · obtain ⟨outcome', hstart', hsource⟩ := expand_source hexpand
    rw [hstart] at hstart'
    cases hstart'
    rw [List.mem_singleton.mp hs]
    exact declares_source hrun _ hsource

/-! ### What is keyed by ids -/

theorem modelId_mem_iff {ds : List Declared} (hds : ∀ d ∈ ds, w.Declares d) {e : Declared}
    (he : w.Declares e) : e.modelId ∈ ds.map Declared.modelId ↔ ∃ d ∈ ds, d.key = e.key := by
  rw [List.mem_map]
  constructor
  · rintro ⟨d, hd, hid⟩
    exact ⟨d, hd, ((hds d hd).modelId_eq_iff he).mp hid⟩
  · rintro ⟨d, hd, hkey⟩
    exact ⟨d, hd, ((hds d hd).modelId_eq_iff he).mpr hkey⟩

/-- Of models that resolutions bring, the first of each name and spelling of the package is kept. -/
theorem dedup_brought {ss : List Sketch} (hss : ∀ s ∈ ss, w.Brings overrides s) :
    Model.dedup (ss.map Sketch.model) = (firsts (fun s => s.id.key) ss).map Sketch.model := by
  rw [Model.dedup_eq, firsts_map]
  refine congrArg (List.map Sketch.model) (firsts_congr fun s hs t ht => ?_)
  exact (hss s hs).declares.modelId_eq_iff (hss t ht).declares

/-- Under the id of a type stands the first of these models with its name and the spelling of its
package. -/
theorem get?_byId_brought {ss : List Sketch} (hss : ∀ s ∈ ss, w.Brings overrides s) {e : Declared}
    (he : w.Declares e) :
    (Model.byId (ss.map Sketch.model)).get? e.modelId =
      (ss.find? fun s => s.id.key = e.key).map Sketch.model := by
  have hkeys : ∀ s ∈ ss, decide (s.model.id = e.modelId) = decide (s.id.key = e.key) := by
    intro s hs
    exact decide_eq_decide.mpr ((hss s hs).declares.modelId_eq_iff he)
  rw [Model.get?_byId, List.find?_map]
  exact congrArg (Option.map Sketch.model) (List.find?_congr hkeys)

/-- **What an id identifies.**  Types that are found share an id just if they share a name and their
packages are spelled alike; they are one type then, or stand in two directories.  Where ids are looked
up — among those that have been visited, among models of which the first of each id is kept, and among
the models of a declaration — nothing else is taken for one. -/
theorem modelId_identifies (w : Workspace) (overrides : Overrides) (history₁ history₂ : List Request)
    (name₁ package₁ name₂ package₂ : String) {d₁ d₂ : Declared}
    (h₁ : (w.findDefinition name₁ package₁ (w.after history₁)).1 = .ok (d₁.decl, d₁.package))
    (h₂ : (w.findDefinition name₂ package₂ (w.after history₂)).1 = .ok (d₂.decl, d₂.package)) :
    (TypeName.modelId d₁.package d₁.decl.name = TypeName.modelId d₂.package d₂.decl.name ↔
      d₁.decl.name = d₂.decl.name ∧ TypeName.dotted d₁.package = TypeName.dotted d₂.package) ∧
    (d₁.modelId = d₂.modelId → d₁.decl = d₂.decl ∨ ∃ l₁ l₂, w.location? d₁.package = some l₁ ∧
      w.location? d₂.package = some l₂ ∧ l₁ ≠ l₂) ∧
    (∀ ds : List Declared, (∀ d ∈ ds, w.Declares d) →
      (d₁.modelId ∈ ds.map Declared.modelId ↔ ∃ d ∈ ds, d.key = d₁.key)) ∧
    ∀ ss : List Sketch, (∀ s ∈ ss, w.Brings overrides s) →
      Model.dedup (ss.map Sketch.model) = (firsts (fun s => s.id.key) ss).map Sketch.model ∧
      (Model.byId (ss.map Sketch.model)).get? d₁.modelId =
        (ss.find? fun s => s.id.key = d₁.key).map Sketch.model := by
  have hd₁ : w.Declares d₁ := ⟨name₁, package₁, found_of_findDefinition h₁⟩
  have hd₂ : w.Declares d₂ := ⟨name₂, package₂, found_of_findDefinition h₂⟩
  refine ⟨TypeName.modelId_eq_iff hd₁.dotless hd₂.dotless, fun hid => ?_,
    fun ds hds => modelId_mem_iff hds hd₁, fun ss hss => ⟨dedup_brought hss, get?_byId_brought hss hd₁⟩⟩
  obtain ⟨l₁, hl₁⟩ := Option.isSome_iff_exists.mp hd₁.location
  obtain ⟨l₂, hl₂⟩ := Option.isSome_iff_exists.mp hd₂.location
  by_cases hl : l₁ = l₂
  · have hkey := (hd₁.modelId_eq_iff hd₂).mp hid
    refine Or.inl (hd₁.decl_eq hd₂ (congrArg Prod.snd hkey) ?_)
    rw [hl₁, hl₂, hl]
  · exact Or.inr ⟨l₁, l₂, hl₁, hl₂, hl⟩

/-! ### Packages that are spelled alike -/

/-- Two packages in different directories, the first of which embeds a type of the second. -/
def twins : Workspace where
  search := { roots := ["/"] }
  files := { root := .dir [("src", .dir [
    ("shop", .dir [("eu", .dir [("order.go", .text
      ("package eu\n\nimport base \"shop.eu\"\n\n" ++
        "type Order struct \x7b\n\tbase.Order\n\tTax int\n\x7d\n"))])]),
    ("shop.eu", .dir [("order.go", .text
      "package base\n\ntype Order struct \x7b\n\tId int\n\x7d\n")])])] }

def taxedOrder : Declared where
  decl :=
    { name := "Order"
      kind := .struct [{ name := none, type := .named (some "base") "Order" },
        { name := some "Tax", type := .named none "int" }] }
  package := "shop/eu"

def baseOrder : Declared where
  decl := { name := "Order", kind := .struct [{ name := some "Id", type := .named none "int" }] }
  package := "shop.eu"

-- The answers are evaluated together, so that the sources are read once.
theorem twins_answers :
    (twins.findDefinition "Order" "shop/eu" (twins.after [])).1.toOption =
        some (taxedOrder.decl, taxedOrder.package) ∧
      (twins.findDefinition "base.Order" "shop/eu" (twins.after [])).1.toOption =
        some (baseOrder.decl, baseOrder.package) ∧
      (twins.resolveModel ∅ "Order" "shop/eu" (twins.after [])).1.toOption =
        some ({ id := "shop.eu.Order", properties := KeyMap.ofList [("Tax", { type := "int" })] },
          []) := by
  decide +kernel

theorem find_taxedOrder :
    (twins.findDefinition "Order" "shop/eu" (twins.after [])).1 =
      .ok (taxedOrder.decl, taxedOrder.package) :=
  except_of_toOption twins_answers.1

theorem find_baseOrder :
    (twins.findDefinition "base.Order" "shop/eu" (twins.after [])).1 =
      .ok (baseOrder.decl, baseOrder.package) :=
  except_of_toOption twins_answers.2.1

/-- Both orders have one id, as they share their name and the spelling of their packages. -/
theorem modelId_identifies_twins :
    (twins.findDefinition "Order" "shop/eu" (twins.after [])).1 =
        .ok (taxedOrder.decl, taxedOrder.package) ∧
      (twins.findDefinition "base.Order" "shop/eu" (twins.after [])).1 =
        .ok (baseOrder.decl, baseOrder.package) ∧
      taxedOrder.modelId = baseOrder.modelId ∧
      ∃ l₁ l₂, twins.location? taxedOrder.package = some l₁ ∧
        twins.location? baseOrder.package = some l₂ ∧ l₁ ≠ l₂ := by
  obtain ⟨hiff, hdirectories, -⟩ := modelId_identifies twins ∅ [] [] "Order" "shop/eu" "base.Order"
    "shop/eu" find_taxedOrder find_baseOrder
  have hid : taxedOrder.modelId = baseOrder.modelId := hiff.mpr ⟨rfl, by decide +kernel⟩
  have hdecl : taxedOrder.decl ≠ baseOrder.decl := by decide
  exact ⟨find_taxedOrder, find_baseOrder, hid, (hdirectories hid).resolve_left hdecl⟩

/-- Types of different directories can share an id; the embedded one then counts as the one that
embeds it, and nothing is taken over from it. -/
theorem modelId_confuses :
    ¬(∀ (w : Workspace) (name₁ package₁ name₂ package₂ : String) (d₁ d₂ : Declared),
        (w.findDefinition name₁ package₁ {}).1 = .ok (d₁.decl, d₁.package) →
        (w.findDefinition name₂ package₂ {}).1 = .ok (d₂.decl, d₂.package) →
        w.location? d₁.package ≠ w.location? d₂.package ∨ d₁.decl.name ≠ d₂.decl.name →
        TypeName.modelId d₁.package d₁.decl.name ≠ TypeName.modelId d₂.package d₂.decl.name) ∧
      (twins.resolveModel ∅ "Order" "shop/eu" {}).1 =
        .ok ({ id := "shop.eu.Order", properties := KeyMap.ofList [("Tax", { type := "int" })] },
          []) := by
  refine ⟨fun hall => ?_, except_of_toOption twins_answers.2.2⟩
  have hlocations : twins.location? "shop/eu" ≠ twins.location? "shop.eu" := by decide +kernel
  refine hall twins "Order" "shop/eu" "base.Order" "shop/eu" taxedOrder baseOrder find_taxedOrder
    find_baseOrder (Or.inl hlocations) ?_
  decide +kernel

end ApiScribe
