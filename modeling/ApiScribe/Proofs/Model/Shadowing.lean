import ApiScribe.Proofs.Model.Reaching

/-!
# Where the properties of a struct come from

* `Flattening.supplier?` — each property comes from one struct, the declared one or one embedded in it;
* `resolveModel_shadowing` — and there, from the last field with its name;
* `resolveModel_required` — but whether it is required is told by all fields with its name there.
-/

namespace ApiScribe

namespace Flattening

/-! ### Where a property comes from -/

section

variable (overrides : Overrides) (k : String)

mutual

/-- The struct that gives the property of a name, by its fields, and the last of these with the name:
the declared struct itself, or else the first that gives it of those embedded in it. -/
def supplier? : Flattening → Option (List FieldDecl × FieldDecl)
  | node _ fields embedded =>
    ((FieldDecl.lastShown? overrides fields k).map fun f => (fields, f)).or (supplierAmong? embedded)

/-- The first struct among some that gives the property. -/
def supplierAmong? : List Flattening → Option (List FieldDecl × FieldDecl)
  | [] => none
  | t :: ts => t.supplier?.or (supplierAmong? ts)

end

/-- The supplier of each property is known, and its fields tell whether the property is required. -/
structure Supplied (t : Flattening) : Prop where
  isSome : (t.supplier? overrides k).isSome ↔ (t.sketch.properties.get? k).isSome
  last : ∀ fs f, t.supplier? overrides k = some (fs, f) → FieldDecl.lastShown? overrides fs k = some f
  required : ∀ fs f, t.supplier? overrides k = some (fs, f) →
    (k ∈ t.sketch.required ↔ ∃ g ∈ fs, g.shownAs? overrides = some k ∧ g.hints.required)

end

section

variable {w : Workspace} {overrides : Overrides} {k : String}

theorem supplierAmong?_isSome {ts : List Flattening} (hts : ∀ t ∈ ts, t.Supplied overrides k) :
    (supplierAmong? overrides k ts).isSome ↔
      ((ts.map sketch).findSome? fun c => c.properties.get? k).isSome := by
  induction ts with
  | nil => rfl
  | cons t ts ih =>
    have hrest := ih fun u hu => hts u (List.mem_cons_of_mem _ hu)
    have ht := (hts t List.mem_cons_self).isSome
    rw [supplierAmong?, List.map_cons, List.findSome?_cons, Option.isSome_or, Bool.or_eq_true, ht,
      hrest]
    cases t.sketch.properties.get? k <;> simp

theorem find?_of_supplierAmong? {ts : List Flattening} (hts : ∀ t ∈ ts, t.Supplied overrides k)
    {fs : List FieldDecl} {f : FieldDecl} (h : supplierAmong? overrides k ts = some (fs, f)) :
    ∃ t ∈ ts, t.supplier? overrides k = some (fs, f) ∧
      (ts.map sketch).find? (fun c => c.properties.contains k) = some t.sketch := by
  induction ts with
  | nil => cases h
  | cons t ts ih =>
    have ht := (hts t List.mem_cons_self).isSome
    rw [supplierAmong?] at h
    rw [List.map_cons, List.find?_cons]
    unfold KeyMap.contains at ih ⊢
    rcases Option.or_eq_some_iff.mp h with hfirst | ⟨hnone, hrest⟩
    · rw [hfirst] at ht
      rw [ht.mp rfl]
      exact ⟨t, List.mem_cons_self, hfirst, rfl⟩
    · rw [hnone] at ht
      have hfree : (t.sketch.properties.get? k).isSome = false :=
        Bool.eq_false_iff.mpr fun hsome => nomatch ht.mpr hsome
      rw [hfree]
      obtain ⟨u, hu, hsupplier, hfind⟩ := ih (fun u hu => hts u (List.mem_cons_of_mem _ hu)) hrest
      exact ⟨u, List.mem_cons_of_mem _ hu, hsupplier, hfind⟩

theorem supplied_own {d : Declared} {fields : List FieldDecl} {ts : List Flattening} {s : Sketch}
    (h : s.Merges w overrides d fields (ts.map sketch)) {f : FieldDecl}
    (hlast : FieldDecl.lastShown? overrides fields k = some f) :
    (node s fields ts).Supplied overrides k := by
  obtain ⟨meaning, -, hproperties⟩ := h.properties
  obtain ⟨p, hp⟩ := partOf?_of_lastShown? hlast
  have hsupplier : (node s fields ts).supplier? overrides k = some (fields, f) := by
    rw [supplier?, hlast]
    rfl
  refine ⟨?_, fun fs g hg => ?_, fun fs g hg => ?_⟩
  · rw [hsupplier]
    simp [sketch, hproperties, hlast, hp]
  · rw [hsupplier] at hg
    cases hg
    exact hlast
  · rw [hsupplier] at hg
    cases hg
    have hown : ¬(FieldDecl.lastShown? overrides fields k = none ∧
        ∃ c, (ts.map sketch).find? (fun c => c.properties.contains k) = some c ∧
          k ∈ c.required) := by
      rintro ⟨hnone, -⟩
      rw [hlast] at hnone
      cases hnone
    exact (h.required k).trans (or_iff_left hown)

/-- What no field of a struct gives is supplied by what it embeds. -/
theorem supplied_embedded {d : Declared} {fields : List FieldDecl} {ts : List Flattening} {s : Sketch}
    (h : s.Merges w overrides d fields (ts.map sketch)) (hts : ∀ t ∈ ts, t.Supplied overrides k)
    (hlast : FieldDecl.lastShown? overrides fields k = none) :
    (node s fields ts).Supplied overrides k := by
  obtain ⟨meaning, -, hproperties⟩ := h.properties
  have hsupplier : (node s fields ts).supplier? overrides k = supplierAmong? overrides k ts := by
    rw [supplier?, hlast]
    rfl
  have hget : s.properties.get? k = (ts.map sketch).findSome? fun c => c.properties.get? k := by
    simp [hproperties, hlast]
  have hrequired : k ∈ s.required ↔
      ∃ c, (ts.map sketch).find? (fun c => c.properties.contains k) = some c ∧ k ∈ c.required := by
    have hshown := FieldDecl.lastShown?_eq_none_iff.mp hlast
    rw [h.required]
    constructor
    · rintro (⟨g, hg, hname, -⟩ | ⟨-, hfirst⟩)
      · exact absurd hname (hshown g hg)
      · exact hfirst
    · exact fun hfirst => Or.inr ⟨hlast, hfirst⟩
  refine ⟨?_, fun fs f hf => ?_, fun fs f hf => ?_⟩
  · rw [hsupplier, supplierAmong?_isSome hts, sketch, hget]
  · rw [hsupplier] at hf
    obtain ⟨t, ht, htf, -⟩ := find?_of_supplierAmong? hts hf
    exact (hts t ht).last fs f htf
  · rw [hsupplier] at hf
    obtain ⟨t, ht, htf, hfind⟩ := find?_of_supplierAmong? hts hf
    rw [sketch, hrequired, hfind, ← (hts t ht).required fs f htf]
    simp

theorem supplied_node {d : Declared} {fields : List FieldDecl} {ts : List Flattening} {s : Sketch}
    (h : s.Merges w overrides d fields (ts.map sketch)) (hts : ∀ t ∈ ts, t.Supplied overrides k) :
    (node s fields ts).Supplied overrides k := by
  cases hlast : FieldDecl.lastShown? overrides fields k with
  | some f => exact supplied_own h hlast
  | none => exact supplied_embedded h hts hlast

/-- **In a flattening, each property has a supplier.** -/
theorem Of.supplied {chain : List String} {d : Declared} {t : Flattening}
    (h : Of w overrides chain d t) : t.Supplied overrides k :=
  h.holds fun hmerges hts => supplied_node hmerges hts

end

end Flattening

/-! ### Resolved structs -/

section

variable {w : Workspace} {overrides : Overrides}

/-- Where nothing is under way or complete, the name of a declaration with a model of its own turns out
to be a primitive, or the model is built. -/
theorem Build.Resolves.of_model {name package : String} {outcome : Outcome} {done : List String}
    (h : Build.Resolves w overrides {} name package [] outcome done) {d : Declared}
    (hfound : w.found name package = .ok d) (hrole : d.role overrides = .model) :
    (∃ primitive, TypeName.primitive? overrides name = some primitive ∧
      outcome = .primitive primitive none) ∨
    TypeName.primitive? overrides name = none ∧
      ∃ root rest, outcome = .built root rest ∧ root.id = d := by
  cases h with
  | primitive hname => exact Or.inl ⟨_, hname, rfl⟩
  | known _ _ hknown => exact absurd hknown (by simp)
  | synonym _ hfound' _ hrole' =>
    cases hfound.symm.trans hfound'
    cases hrole.symm.trans hrole'
  | follow _ hfound' _ hrole' =>
    cases hfound.symm.trans hfound'
    cases hrole.symm.trans hrole'
  | build hname hfound' _ _ hmodel =>
    cases hfound.symm.trans hfound'
    exact Or.inr ⟨hname, _, _, rfl, hmodel.id_eq⟩

/-- From a struct, the first model that is expanded is its own, and every one is an expansion. -/
theorem expand_struct {m : Memory} (hm : Coherent w m) {name package : String} {d : Declared}
    {fields : List FieldDecl} (hfound : w.found name package = .ok d)
    (hkind : d.decl.kind = .struct fields) {root : Sketch} {rest : List Sketch}
    (h : (w.expand overrides name package m).1 = .ok (root, rest)) :
    root.id = d ∧ ∀ s ∈ root :: rest, Build.Expansion w overrides s := by
  have hrole : d.role overrides = .model :=
    Declared.role_of_kind fun type htype => by
      rw [hkind] at htype
      cases htype
  obtain ⟨outcome, done, hstart, hrun, hbuilt⟩ := expand_ok hm h
  rcases hrun.of_model hfound hrole with ⟨primitive, -, rfl⟩ | ⟨-, root', rest', rfl, hroot⟩
  · obtain ⟨outcome', hstart', hsource⟩ := expand_source h
    cases hstart.symm.trans hstart'
    cases hsource
  · rcases hbuilt with hbuilt | ⟨hnone, -⟩
    · cases hbuilt
      exact ⟨hroot, hrun.complete.built⟩
    · cases hnone

theorem Sketch.get?_model (s : Sketch) (k : String) :
    s.model.properties.get? k = (s.properties.get? k).map Part.property := by
  unfold Sketch.model ModelOf.map
  rw [KeyMap.get?_map]

theorem Flattening.findSome?_model (ts : List Flattening) (k : String) :
    (ts.findSome? fun t => t.model.properties.get? k) =
      ((ts.map sketch).findSome? fun c => c.properties.get? k).map Part.property := by
  induction ts with
  | nil => rfl
  | cons t ts ih =>
    rw [List.map_cons, List.findSome?_cons, List.findSome?_cons, ih, Flattening.model,
      Sketch.get?_model]
    cases t.sketch.properties.get? k <;> rfl

/-- The models that a struct resolves to, each with a flattening of its declaration. -/
theorem resolveModel_struct {history : List Request} {name package : String} {d : Declared}
    {fields : List FieldDecl} {model : Model} {inner : List Model}
    (hfound : (w.findDefinition name package (w.after history)).1 = .ok (d.decl, d.package))
    (hkind : d.decl.kind = .struct fields)
    (h : (w.resolveModel overrides name package (w.after history)).1 = .ok (model, inner)) :
    ∃ root rest, (w.expand overrides name package (w.after history)).1 = .ok (root, rest) ∧
      root.id = d ∧ model = root.model ∧ inner = rest.map Sketch.model ∧
      ∀ s ∈ root :: rest, ∃ t, Flattening.Of w overrides [s.id.modelId] s.id t ∧ t.sketch = s := by
  have hm := coherent_after w history
  obtain ⟨root, rest, hexpand, hmodel, hinner⟩ := resolveModel_models hm h
  obtain ⟨hroot, hbuilt⟩ := expand_struct hm (found_of_findDefinition hfound) hkind hexpand
  exact ⟨root, rest, hexpand, hroot, hmodel, hinner, fun s hs => (hbuilt s hs).flattening⟩

/-- **Which field gives a property of a struct.**  The names of the properties are those of the fields
and those of what is embedded.  Under the name of a field stands the last field with it, and under any
other name what the first embedded struct has there, wherever fields and embedded structs stand.  What
is embedded inside itself gives nothing. -/
theorem resolveModel_shadowing (w : Workspace) (overrides : Overrides) (history : List Request)
    (name package : String) {d : Declared} {fields : List FieldDecl} {model : Model}
    {inner : List Model}
    (hfound : (w.findDefinition name package (w.after history)).1 = .ok (d.decl, d.package))
    (hkind : d.decl.kind = .struct fields)
    (h : (w.resolveModel overrides name package (w.after history)).1 = .ok (model, inner)) :
    (∃ root rest, (w.expand overrides name package (w.after history)).1 = .ok (root, rest) ∧
      root.id = d ∧ model = root.model ∧ inner = rest.map Sketch.model ∧
      ∀ s ∈ root :: rest, ∀ fs, s.id.decl.kind = .struct fs → ∃ meaning ts,
        (∀ n ∈ (Sketch.ofFields overrides s.id fs).typeNames,
          Denotes w overrides n s.id.package (meaning n)) ∧
        Flattening.OfNames w overrides [s.id.modelId] s.id.package
          (fs.filterMap (FieldDecl.embedded? overrides)) ts ∧
        (∀ k, s.model.properties.contains k ↔ (∃ f ∈ fs, f.shownAs? overrides = some k) ∨
          ∃ t ∈ ts, t.model.properties.contains k) ∧
        (∀ k f, FieldDecl.lastShown? overrides fs k = some f →
          s.model.properties.get? k =
            (Sketch.partOf? overrides f).map fun p => (p.settleBy meaning).property) ∧
        ∀ k, (∀ f ∈ fs, f.shownAs? overrides ≠ some k) →
          s.model.properties.get? k = ts.findSome? fun t => t.model.properties.get? k) ∧
    ∀ chain n p e t?, Flattening.OfName w overrides chain n p t? → w.found n p = .ok e →
      e.modelId ∈ chain → t? = none := by
  obtain ⟨root, rest, hexpand, hroot, hmodel, hinner, hall⟩ := resolveModel_struct hfound hkind h
  refine ⟨⟨root, rest, hexpand, hroot, hmodel, hinner, fun s hs fs hfs => ?_⟩,
    fun chain n p e t? ht he hchained => ht.chained_eq_none he hchained⟩
  obtain ⟨t, ht, rfl⟩ := hall s hs
  obtain ⟨ts, -, hembedded, hmerges⟩ := ht.of_struct hfs
  obtain ⟨meaning, hmeaning, hproperties⟩ := hmerges.properties
  have hget : ∀ k, t.sketch.model.properties.get? k =
      (((FieldDecl.lastShown? overrides fs k).bind (Sketch.partOf? overrides)).map
        fun p => (p.settleBy meaning).property).or
          (ts.findSome? fun t => t.model.properties.get? k) := by
    intro k
    rw [Sketch.get?_model, hproperties, Option.map_or, Option.map_map,
      Flattening.findSome?_model]
    rfl
  refine ⟨meaning, ts, hmeaning, hembedded, fun k => ?_, fun k f hf => ?_, fun k hk => ?_⟩
  · unfold KeyMap.contains
    rw [hget, Option.isSome_or, Bool.or_eq_true, Option.isSome_map, part_isSome_iff,
      List.findSome?_isSome_iff]
  · obtain ⟨p, hp⟩ := partOf?_of_lastShown? hf
    rw [hget, hf, Option.bind_some, hp]
    rfl
  · rw [hget, FieldDecl.lastShown?_eq_none_iff.mpr hk]
    rfl

/-- **Which names of a struct are required.**  The required names are distinct names of properties.  A
property is required just if any field with its name is, among the fields of the struct that supplies
it; so it is not always as the supplying field, the last one with the name, tells: just if that one is
required whenever another is. -/
theorem resolveModel_required (w : Workspace) (overrides : Overrides) (history : List Request)
    (name package : String) {d : Declared} {fields : List FieldDecl} {model : Model}
    {inner : List Model}
    (hfound : (w.findDefinition name package (w.after history)).1 = .ok (d.decl, d.package))
    (hkind : d.decl.kind = .struct fields)
    (h : (w.resolveModel overrides name package (w.after history)).1 = .ok (model, inner)) :
    ∃ root rest, (w.expand overrides name package (w.after history)).1 = .ok (root, rest) ∧
      root.id = d ∧ model = root.model ∧ inner = rest.map Sketch.model ∧
      ∀ s ∈ root :: rest, ∃ t, Flattening.Of w overrides [s.id.modelId] s.id t ∧ t.sketch = s ∧
        s.model.required.Nodup ∧
        (∀ k ∈ s.model.required, s.model.properties.contains k) ∧
        ∀ k, s.model.properties.contains k → ∃ fs f, t.supplier? overrides k = some (fs, f) ∧
          FieldDecl.lastShown? overrides fs k = some f ∧
          (k ∈ s.model.required ↔ ∃ g ∈ fs, g.shownAs? overrides = some k ∧ g.hints.required) ∧
          ((k ∈ s.model.required ↔ f.hints.required) ↔
            ((∃ g ∈ fs, g.shownAs? overrides = some k ∧ g.hints.required) →
              f.hints.required)) := by
  obtain ⟨root, rest, hexpand, hroot, hmodel, hinner, hall⟩ := resolveModel_struct hfound hkind h
  refine ⟨root, rest, hexpand, hroot, hmodel, hinner, fun s hs => ?_⟩
  obtain ⟨t, ht, rfl⟩ := hall s hs
  obtain ⟨fs, embedded, hmerges⟩ := ht.merges
  refine ⟨t, ht, rfl, hmerges.nodup, fun k hk => ?_, fun k hk => ?_⟩
  · unfold KeyMap.contains
    rw [Sketch.get?_model, Option.isSome_map]
    exact hmerges.isSome_of_required hk
  · unfold KeyMap.contains at hk
    rw [Sketch.get?_model, Option.isSome_map] at hk
    have hsupplied := ht.supplied (k := k)
    obtain ⟨⟨fs, f⟩, hsupplier⟩ := Option.isSome_iff_exists.mp (hsupplied.isSome.mpr hk)
    have hlast := hsupplied.last fs f hsupplier
    have hrequired := hsupplied.required fs f hsupplier
    obtain ⟨hf, hname⟩ := FieldDecl.mem_of_lastShown? hlast
    refine ⟨fs, f, hsupplier, hlast, hrequired, ?_⟩
    constructor
    · exact fun hsame hany => hsame.mp (hrequired.mpr hany)
    · exact fun hany =>
        ⟨fun hk => hany (hrequired.mp hk), fun hreq => hrequired.mpr ⟨f, hf, hname, hreq⟩⟩

end

/-! ### Two fields with one name -/

/-- A package in which two fields of an order share a name, and a receipt embeds the order. -/
def till : Workspace where
  search := { roots := ["/"] }
  files := { root := .dir [("src", .dir [("shop", .dir [("shop.go", .text
    ("package shop\n\ntype Order struct \x7b\n\tId int `json:\"id,required\"`\n" ++
      "\tNumber string `json:\"id\"`\n\x7d\n\ntype Receipt struct \x7b\n" ++
      "\tTotal int `json:\"total\"`\n\tOrder\n\tLast *Receipt `json:\"last\"`\n\x7d\n"))])])] }

def numberField : FieldDecl where
  name := some "Number"
  type := .named none "string"
  hints := { rename := some "id" }

def numberedFields : List FieldDecl :=
  [{ name := some "Id", type := .named none "int",
     hints := { rename := some "id", required := true } }, numberField]

def numberedOrder : Declared where
  decl := { name := "Order", kind := .struct numberedFields }
  package := "shop"

def numberedModel : Model where
  id := "shop.Order"
  required := ["id"]
  properties := KeyMap.ofList [("id", { type := "string" })]

def receiptFields : List FieldDecl :=
  [{ name := some "Total", type := .named none "int", hints := { rename := some "total" } },
    { name := none, type := .named none "Order" },
    { name := some "Last", type := .named none "Receipt", hints := { rename := some "last" } }]

def receipt : Declared where
  decl := { name := "Receipt", kind := .struct receiptFields }
  package := "shop"

def receiptModel : Model where
  id := "shop.Receipt"
  required := ["id"]
  properties := KeyMap.ofList
    [("id", { type := "string" }), ("last", { type := "shop.Receipt" }), ("total", { type := "int" })]

-- The answers are evaluated together, so that the source is read once.
theorem till_answers :
    (till.findDefinition "Receipt" "shop" (till.after [])).1.toOption =
        some (receipt.decl, receipt.package) ∧
      (till.resolveModel ∅ "Receipt" "shop" (till.after [])).1.toOption = some (receiptModel, []) ∧
      (till.findDefinition "Order" "shop" (till.after [])).1.toOption =
        some (numberedOrder.decl, numberedOrder.package) ∧
      (till.resolveModel ∅ "Order" "shop" (till.after [])).1.toOption =
        some (numberedModel, []) := by
  decide +kernel

theorem find_receipt :
    (till.findDefinition "Receipt" "shop" (till.after [])).1 = .ok (receipt.decl, receipt.package) :=
  except_of_toOption till_answers.1

theorem resolve_receipt :
    (till.resolveModel ∅ "Receipt" "shop" (till.after [])).1 = .ok (receiptModel, []) :=
  except_of_toOption till_answers.2.1

theorem find_numberedOrder :
    (till.findDefinition "Order" "shop" (till.after [])).1 =
      .ok (numberedOrder.decl, numberedOrder.package) :=
  except_of_toOption till_answers.2.2.1

theorem resolve_numberedOrder :
    (till.resolveModel ∅ "Order" "shop" (till.after [])).1 = .ok (numberedModel, []) :=
  except_of_toOption till_answers.2.2.2

/-- The receipt has its own fields, and under other names what the order has. -/
theorem resolveModel_shadowing_receipt :
    (till.findDefinition "Receipt" "shop" (till.after [])).1 =
        .ok (receipt.decl, receipt.package) ∧
      receipt.decl.kind = .struct receiptFields ∧
      (till.resolveModel ∅ "Receipt" "shop" (till.after [])).1 = .ok (receiptModel, []) ∧
      ∃ ts, Flattening.OfNames till ∅ [receipt.modelId] "shop" ["Order"] ts ∧
        ∀ k, (∀ f ∈ receiptFields, f.shownAs? ∅ ≠ some k) →
          receiptModel.properties.get? k = ts.findSome? fun t => t.model.properties.get? k := by
  obtain ⟨⟨root, rest, -, hroot, hmodel, -, hall⟩, -⟩ :=
    resolveModel_shadowing till ∅ [] "Receipt" "shop" find_receipt rfl resolve_receipt
  have hfields : root.id.decl.kind = .struct receiptFields := by
    rw [hroot]
    rfl
  obtain ⟨meaning, ts, -, hembedded, -, -, hother⟩ := hall root List.mem_cons_self _ hfields
  rw [hroot] at hembedded
  refine ⟨find_receipt, rfl, resolve_receipt, ts, hembedded, fun k hk => ?_⟩
  rw [hmodel]
  exact hother k hk

/-- The name that the receipt takes over is required with it. -/
theorem resolveModel_required_receipt :
    (till.findDefinition "Receipt" "shop" (till.after [])).1 =
        .ok (receipt.decl, receipt.package) ∧
      receipt.decl.kind = .struct receiptFields ∧
      (till.resolveModel ∅ "Receipt" "shop" (till.after [])).1 = .ok (receiptModel, []) ∧
      ∃ t, Flattening.Of till ∅ [receipt.modelId] receipt t ∧
        ∃ fs f, t.supplier? ∅ "id" = some (fs, f) ∧
          ("id" ∈ receiptModel.required ↔
            ∃ g ∈ fs, g.shownAs? ∅ = some "id" ∧ g.hints.required) := by
  obtain ⟨root, rest, -, hroot, hmodel, -, hall⟩ :=
    resolveModel_required till ∅ [] "Receipt" "shop" find_receipt rfl resolve_receipt
  obtain ⟨t, ht, -, -, -, hsupplied⟩ := hall root List.mem_cons_self
  rw [hroot] at ht
  rw [← hmodel] at hsupplied
  obtain ⟨fs, f, hsupplier, -, hrequired, -⟩ := hsupplied "id" (by decide +kernel)
  exact ⟨find_receipt, rfl, resolve_receipt, t, ht, fs, f, hsupplier, hrequired⟩

/-- A name can be required though the field that supplies it is not: the one before it is. -/
theorem resolveModel_required_differs :
    ¬(∀ (w : Workspace) (overrides : Overrides) (name package : String) (d : Declared)
        (fields : List FieldDecl) (model : Model) (inner : List Model),
        (w.findDefinition name package {}).1 = .ok (d.decl, d.package) →
        d.decl.kind = .struct fields →
        (w.resolveModel overrides name package {}).1 = .ok (model, inner) →
        ∀ k f, FieldDecl.lastShown? overrides fields k = some f →
          (k ∈ model.required ↔ f.hints.required)) ∧
      (till.resolveModel ∅ "Order" "shop" {}).1 = .ok (numberedModel, []) ∧
      FieldDecl.lastShown? ∅ numberedFields "id" = some numberField := by
  have hlast : FieldDecl.lastShown? ∅ numberedFields "id" = some numberField := by decide +kernel
  refine ⟨fun hall => ?_, resolve_numberedOrder, hlast⟩
  have hrequired : "id" ∈ numberedModel.required := by decide
  have hfield : numberField.hints.required :=
    (hall till ∅ "Order" "shop" numberedOrder numberedFields numberedModel [] find_numberedOrder rfl
      resolve_numberedOrder "id" numberField hlast).mp hrequired
  exact absurd hfield (by decide)

end ApiScribe
