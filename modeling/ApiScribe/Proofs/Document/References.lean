import ApiScribe.Proofs.Document.Grouping
import ApiScribe.Proofs.Operation.References

/-!
# References within a declaration

The operations of a resource bring their models with them, and each id stands for the first model that
came with it.

* `Model.byId` — models by their ids;
* `models?_ofEdits` — the models of a resource are those that its operations bring, dropped ones
  included;
* `references_ofEdits` — if lookups answer with closed models, then no declaration refers to a model
  that it does not hold.
-/

namespace ApiScribe

/-! ### Models by their ids -/

namespace Model

/-- Models by their ids; of those with one id the first counts. -/
def byId (ms : List Model) : KeyMap Model := ms.foldl (fun known m => known.insertNew m.id m) ∅

theorem byId_append (ms ns : List Model) :
    byId (ms ++ ns) = ns.foldl (fun known m => known.insertNew m.id m) (byId ms) :=
  List.foldl_append

theorem get?_foldl_insertNew (known : KeyMap Model) (ms : List Model) (id : String) :
    (ms.foldl (fun known m => known.insertNew m.id m) known).get? id =
      (known.get? id).or (ms.find? fun m => m.id = id) := by
  induction ms using List.reverseRecOn with
  | nil => exact Option.or_none.symm
  | append_singleton ms m ih =>
    rw [List.foldl_append, List.foldl_cons, List.foldl_nil, KeyMap.get?_insertNew, ih,
      List.find?_append, Option.or_assoc]
    by_cases hid : m.id = id
    · simp [hid]
    · simp [hid, Ne.symm hid]

theorem get?_byId (ms : List Model) (id : String) :
    (byId ms).get? id = ms.find? fun m => m.id = id :=
  get?_foldl_insertNew ∅ ms id

theorem contains_byId {ms : List Model} {id : String} :
    (byId ms).contains id ↔ id ∈ ms.map (·.id) := by
  unfold KeyMap.contains
  rw [get?_byId, List.find?_isSome, List.mem_map]
  simp

theorem mem_of_get?_byId {ms : List Model} {id : String} {m : Model}
    (h : (byId ms).get? id = some m) : m ∈ ms := by
  rw [get?_byId] at h
  exact List.mem_of_find?_eq_some h

end Model

namespace Document

/-! ### The models of a resource -/

/-- The models of a resource, if it is there. -/
def models? (doc : Document) (resource : String) : Option (KeyMap Model) :=
  (doc.resource? resource).map (·.models)

theorem models?_edit (doc : Document) (e : Edit) (r : String) :
    (doc.edit e).models? r = match e.addedTo? r with
      | some d => some (d.models.foldl (fun known m => known.insertNew m.id m)
          ((doc.models? r).getD ∅))
      | none => doc.models? r := by
  unfold models?
  rw [resource?_edit]
  cases e.addedTo? r with
  | some d => cases doc.resource? r <;> rfl
  | none => rfl

/-- **The models of a resource are those of the operations that were added to it**, also of those that
were dropped, the first of each id. -/
theorem models?_ofEdits (basePath : String) (es : List Edit) (r : String) :
    (ofEdits basePath es).models? r = if Edit.addedTo r es = [] then none
      else some (Model.byId ((Edit.addedTo r es).flatMap (·.models))) := by
  induction es using List.reverseRecOn with
  | nil => rfl
  | append_singleton es e ih =>
    rw [ofEdits_concat, models?_edit, Edit.addedTo_concat]
    cases he : e.addedTo? r with
    | none => simpa using ih
    | some d =>
      have hmodels : ((ofEdits basePath es).models? r).getD ∅ =
          Model.byId ((Edit.addedTo r es).flatMap (·.models)) := by
        rw [ih]
        split
        · rename_i hnil
          rw [hnil]
          rfl
        · rfl
      simp only [hmodels, ← Model.byId_append]
      simp

theorem declaration_ofEdits {basePath : String} {es : List Edit} {r : String} {decl : ApiDeclaration}
    (hdecl : (ofEdits basePath es).resource? r = some decl) :
    decl.models = Model.byId ((Edit.addedTo r es).flatMap (·.models)) ∧
      ∀ api ∈ decl.apis, ∀ op ∈ api.operations, ∃ d ∈ Edit.addedTo r es, op = d.emptied := by
  have hmodels : (ofEdits basePath es).models? r = some decl.models := by
    rw [models?, hdecl, Option.map_some]
  rw [models?_ofEdits] at hmodels
  split at hmodels
  · cases hmodels
  · refine ⟨(Option.some.inj hmodels).symm, fun api hapi op hop => ?_⟩
    rw [apis_ofEdits hdecl] at hapi
    obtain ⟨first, -, rfl⟩ := List.mem_map.mp hapi
    obtain ⟨d, hd, rfl⟩ := List.mem_map.mp hop
    exact ⟨d, (List.mem_filter.mp (mem_of_mem_firsts hd)).1, rfl⟩

/-! ### References -/

variable {refers : Property → String → Prop} {σ : Type} {types : Lookup σ}

/-- Models that are closed for each operation are closed together. -/
theorem closed_flatMap {ds : List Draft}
    (h : ∀ d ∈ ds, Model.Closed refers d.models) : Model.Closed refers (ds.flatMap (·.models)) := by
  induction ds with
  | nil => exact Model.closed_nil
  | cons d ds ih =>
    rw [List.flatMap_cons]
    exact (h d List.mem_cons_self).append (ih fun e he => h e (List.mem_cons_of_mem _ he))

/-- **No declaration refers to a model that it does not hold**, if lookups answer with closed models
and operations come from comments, whatever has been remembered when these were read: not in a
property of a model, and not in an operation, which names models in its answers, as its items, and as
the types of parameters that have been looked up as models. -/
theorem references_ofEdits (h : types.Closed refers) (basePath : String) {es : List Edit}
    (hes : ∀ d, .add d ∈ es → ∃ package lines s, d = Draft.ofComment types package lines s)
    {r : String} {decl : ApiDeclaration} (hdecl : (ofEdits basePath es).resource? r = some decl) :
    (∀ id m, decl.models.get? id = some m →
      ∀ id', m.RefersTo refers id' → decl.models.contains id') ∧
    ∀ api ∈ decl.apis, ∀ op ∈ api.operations,
      (∃ package lines s, .add (Draft.ofComment types package lines s) ∈ es ∧
        op = (Draft.ofComment types package lines s).emptied) ∧
      ∀ package lines s, .add (Draft.ofComment types package lines s) ∈ es →
        op = (Draft.ofComment types package lines s).emptied →
        let refs := Draft.parameterRefs types (Draft.start package) s lines
        List.Forall₂ (fun p ref => p.dataType = ref.name) op.operation.parameters refs ∧
          ∀ id, op.operation.Names refs id → decl.models.contains id := by
  obtain ⟨hmodels, hoperations⟩ := declaration_ofEdits hdecl
  have hadded : ∀ d ∈ Edit.addedTo r es, ∃ package lines s,
      d = Draft.ofComment types package lines s :=
    fun d hd => hes d (Edit.mem_addedTo.mp hd).1
  rw [hmodels]
  refine ⟨fun id m hm id' hid => ?_, fun api hapi op hop => ⟨?_, ?_⟩⟩
  · have hclosed : Model.Closed refers ((Edit.addedTo r es).flatMap (·.models)) := by
      refine closed_flatMap fun d hd => ?_
      obtain ⟨package, lines, s, rfl⟩ := hadded d hd
      exact (Draft.closed_ofComment h package lines s).models
    exact Model.contains_byId.mpr (hclosed m (Model.mem_of_get?_byId hm) id' hid)
  · obtain ⟨d, hd, rfl⟩ := hoperations api hapi op hop
    obtain ⟨package, lines, s, rfl⟩ := hadded d hd
    exact ⟨package, lines, s, (Edit.mem_addedTo.mp hd).1, rfl⟩
  · intro package lines s hadd hop'
    have hclosed := Draft.closed_ofComment h package lines s
    obtain ⟨d, hd, heq⟩ := hoperations api hapi op hop
    have hresource : (Draft.ofComment types package lines s).resourceName? = some r := by
      have hsame : (Draft.ofComment types package lines s).emptied = d.emptied := hop'.symm.trans heq
      have hname : ∀ d : Draft, d.emptied.resourceName? = d.resourceName? := fun _ => rfl
      rw [← hname, hsame, hname]
      exact (Edit.mem_addedTo.mp hd).2
    subst hop'
    refine ⟨hclosed.parameters, fun id hid => Model.contains_byId.mpr ?_⟩
    obtain ⟨m, hm, hmid⟩ := List.mem_map.mp (hclosed.named hid)
    exact List.mem_map.mpr
      ⟨m, List.mem_flatMap.mpr ⟨_, Edit.mem_addedTo.mpr ⟨hadd, hresource⟩, hm⟩, hmid⟩

/-! ### Orders and their items -/

/-- A property refers to its type, unless that is an array, and to the model of its items. -/
def links (p : Property) (id : String) : Prop :=
  p.type = id ∧ id ≠ "array" ∨ p.items = some (.model id)

def orderModel : Model where
  id := "shop.Order"
  properties := KeyMap.ofList [("Items", .ofItems (.model "shop.Item"))]

def itemModel : Model where
  id := "shop.Item"
  properties := KeyMap.ofList [("Order", { type := "shop.Order" })]

/-- Orders and items refer to each other. -/
def orders : Lookup Unit := fun name _ =>
  if name = "Order" then pure (.model orderModel [itemModel])
  else if name = "Item" then pure (.model itemModel [orderModel])
  else pure (.primitive name)

theorem refersTo_order {id : String} (h : orderModel.RefersTo links id) : id = "shop.Item" := by
  obtain ⟨name, p, hget, hp⟩ := h
  cases List.mem_singleton.mp (KeyMap.mem_of_get?_ofList hget)
  rcases hp with ⟨rfl, hne⟩ | hitems
  · exact absurd rfl hne
  · cases hitems
    rfl

theorem refersTo_item {id : String} (h : itemModel.RefersTo links id) : id = "shop.Order" := by
  obtain ⟨name, p, hget, hp⟩ := h
  cases List.mem_singleton.mp (KeyMap.mem_of_get?_ofList hget)
  rcases hp with ⟨rfl, -⟩ | hitems
  · rfl
  · cases hitems

theorem closed_orders : orders.Closed links := by
  have hclosed : ∀ ms : List Model, (∀ m ∈ ms, m = orderModel ∨ m = itemModel) →
      orderModel ∈ ms → itemModel ∈ ms → Model.Closed links ms := by
    intro ms hms horder hitem m hm id hid
    rcases hms m hm with rfl | rfl
    · exact refersTo_order hid ▸ List.mem_map_of_mem hitem
    · exact refersTo_item hid ▸ List.mem_map_of_mem horder
  intro name package s model inner h
  unfold orders at h
  split at h
  · cases h
    exact hclosed _ (by simp) (by simp) (by simp)
  · split at h
    · cases h
      exact hclosed _ (by simp) (by simp) (by simp)
    · cases h

def orderComment : List String :=
  ["@Param item query Item true", "@Success 200 \x7bobject\x7d Order", "@Router /orders [get]"]

/-- The comment brings the order and the item, and the declaration holds both. -/
theorem references_ofEdits_orders :
    orders.Closed links ∧
    (∀ d, .add d ∈ [Edit.add (.ofComment orders "shop" orderComment ())] →
      ∃ package lines s, d = Draft.ofComment orders package lines s) ∧
    ∃ decl, (ofEdits "/" [.add (.ofComment orders "shop" orderComment ())]).resource? "orders" =
        some decl ∧
      (∀ id m, decl.models.get? id = some m →
        ∀ id', m.RefersTo links id' → decl.models.contains id') ∧
      ∀ api ∈ decl.apis, ∀ op ∈ api.operations,
        op.operation.parameters.map (·.dataType) = ["shop.Item"] ∧
          ∀ id, op.operation.Names [.model "shop.Item"] id → decl.models.contains id := by
  have hedits : ∀ d, .add d ∈ [Edit.add (.ofComment orders "shop" orderComment ())] →
      ∃ package lines s, d = Draft.ofComment orders package lines s := by
    intro d hd
    cases List.mem_singleton.mp hd
    exact ⟨_, _, _, rfl⟩
  have hrefs : Draft.parameterRefs orders (.start "shop") () orderComment = [.model "shop.Item"] := by
    decide +kernel
  have hdeclared : ((ofEdits "/" [.add (.ofComment orders "shop" orderComment ())]).resource?
      "orders").isSome := by
    decide +kernel
  obtain ⟨decl, hdecl⟩ := Option.isSome_iff_exists.mp hdeclared
  obtain ⟨hmodels, hoperations⟩ := references_ofEdits closed_orders "/" hedits hdecl
  refine ⟨closed_orders, hedits, decl, hdecl, hmodels, fun api hapi op hop => ?_⟩
  obtain ⟨⟨package, lines, s, hadd, hop'⟩, hall⟩ := hoperations api hapi op hop
  rw [Edit.add.inj (List.mem_singleton.mp hadd)] at hop'
  obtain ⟨hparameters, hnames⟩ :=
    hall "shop" orderComment () (List.mem_singleton_self _) hop'
  rw [hrefs] at hparameters hnames
  refine ⟨?_, hnames⟩
  obtain ⟨parameter, rest, hp, hrest, heq⟩ := List.forall₂_cons_right_iff.mp hparameters
  rw [heq, List.forall₂_nil_right_iff.mp hrest, List.map_singleton, hp]
  rfl

end Document

end ApiScribe
