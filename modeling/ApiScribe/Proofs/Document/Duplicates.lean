import ApiScribe.Proofs.Document.Listing
import ApiScribe.Proofs.Document.References
import Mathlib.Data.List.Nodup

/-!
# Operations that a document has already

Of the operations of a resource with one path and one method the first stays.  From a later one the
resource still takes over the content types and the models that are new to it.

* `ApiDeclaration.Has` — a declaration has an operation for a path and a method;
* `ApiDeclaration.Knows` — a declaration has the content types and the models of an operation;
* `add_of_has` — adding an operation of which there is one with its path and method changes nothing
  but the content types and the models of its resource, and nothing at all if these are known.
-/

namespace ApiScribe

namespace ApiDeclaration

variable {decl : ApiDeclaration} {d : Draft}

/-- A declaration has an operation for a path and a method. -/
def Has (decl : ApiDeclaration) (path method : String) : Prop :=
  ∃ api ∈ decl.apis, ∃ op ∈ api.operations,
    op.operation.path = path ∧ op.operation.httpMethod = method

/-- A declaration has the content types of an operation, and a model for each id that the operation
brings one for. -/
structure Knows (decl : ApiDeclaration) (d : Draft) : Prop where
  consumes : d.operation.consumes ⊆ decl.consumes
  produces : d.operation.produces ⊆ decl.produces
  models : ∀ m ∈ d.models, decl.models.contains m.id

theorem absorb_eq_self : decl.absorb d = decl ↔ decl.Knows d := by
  have hmodels : (decl.absorb d).models = decl.models ↔ ∀ m ∈ d.models, decl.models.contains m.id := by
    constructor
    · intro h m hm
      have hget := Model.get?_foldl_insertNew decl.models d.models m.id
      rw [show d.models.foldl _ decl.models = decl.models from h] at hget
      unfold KeyMap.contains
      rw [hget, Option.isSome_or, List.find?_isSome.mpr ⟨m, hm, by simp⟩, Bool.or_true]
    · intro h
      refine KeyMap.ext_get? fun id => (Model.get?_foldl_insertNew _ _ id).trans ?_
      cases hfind : d.models.find? (fun m => m.id = id) with
      | none => exact Option.or_none
      | some m =>
        have hid : m.id = id := by simpa using List.find?_some hfind
        obtain ⟨known, hknown⟩ := KeyMap.contains_iff.mp (h m (List.mem_of_find?_eq_some hfind))
        rw [← hid, hknown, Option.some_or]
  constructor
  · intro h
    exact ⟨foldl_pushNew_eq_self.mp (congrArg consumes h),
      foldl_pushNew_eq_self.mp (congrArg produces h), hmodels.mp (congrArg models h)⟩
  · rintro ⟨hconsumes, hproduces, hknown⟩
    have hconsumes : (decl.absorb d).consumes = decl.consumes := foldl_pushNew_eq_self.mpr hconsumes
    have hproduces : (decl.absorb d).produces = decl.produces := foldl_pushNew_eq_self.mpr hproduces
    calc decl.absorb d
        = { decl with
            consumes := (decl.absorb d).consumes
            produces := (decl.absorb d).produces
            models := (decl.absorb d).models } := rfl
      _ = decl := by rw [hconsumes, hproduces, hmodels.mpr hknown]

end ApiDeclaration

/-! ### The routes and the listing stay -/

theorem Api.push_of_mem {api : Api} {d op : Draft} (hop : op ∈ api.operations)
    (hmethod : op.operation.httpMethod = d.operation.httpMethod) : api.push d = api := by
  have hany : api.operations.any (·.operation.httpMethod == d.operation.httpMethod) = true :=
    List.any_eq_true.mpr ⟨op, hop, by simpa using hmethod⟩
  exact if_pos hany

theorem Api.pushTo_eq_self {apis : List Api} (h : (apis.map (·.path)).Nodup) {api : Api} {d : Draft}
    (hapi : api ∈ apis) (hpath : api.path = d.operation.path) (hpush : api.push d = api) :
    pushTo d apis = apis := by
  rw [pushTo_eq h, if_pos ⟨api, hapi, hpath⟩]
  refine (List.map_congr_left fun other hother => ?_).trans (List.map_id apis)
  split
  · rename_i heq
    rw [List.inj_on_of_nodup_map h hother hapi (heq.trans hpath.symm), hpush]
    rfl
  · rfl

theorem ResourceListing.addRef_eq_self {l : ResourceListing} {path : String}
    (h : path ∈ l.apis.map (·.path)) (description : String) : l.addRef path description = l := by
  obtain ⟨ref, href, hpath⟩ := List.mem_map.mp h
  have hany : l.apis.any (·.path == path) = true :=
    List.any_eq_true.mpr ⟨ref, href, by simpa using hpath⟩
  exact if_pos hany

namespace Document

variable {basePath : String} {es : List Edit} {d : Draft} {r : String} {decl : ApiDeclaration}

theorem path_of_mem_operations (hdecl : (ofEdits basePath es).resource? r = some decl) {api : Api}
    (hapi : api ∈ decl.apis) {op : Draft} (hop : op ∈ api.operations) :
    op.operation.path = api.path := by
  rw [apis_ofEdits hdecl] at hapi
  obtain ⟨first, -, rfl⟩ := List.mem_map.mp hapi
  obtain ⟨added, hadded, rfl⟩ := List.mem_map.mp hop
  exact of_decide_eq_true (List.mem_filter.mp (mem_of_mem_firsts hadded)).2

/-- A declaration that has an operation for a path and a method takes no other one. -/
theorem extended_of_has (hdecl : (ofEdits basePath es).resource? r = some decl)
    (hhas : decl.Has d.operation.path d.operation.httpMethod) :
    extended decl d = decl.absorb d := by
  obtain ⟨api, hapi, op, hop, hpath, hmethod⟩ := hhas
  have hdistinct : (decl.apis.map (·.path)).Nodup := by
    rw [apis_ofEdits hdecl]
    exact Api.nodup_path_grouped _
  have hroutes : Api.pushTo d.emptied decl.apis = decl.apis :=
    Api.pushTo_eq_self hdistinct hapi ((path_of_mem_operations hdecl hapi hop).symm.trans hpath)
      (Api.push_of_mem hop hmethod)
  unfold extended
  rw [hroutes]
  rfl

/-- Of an operation that a document has already, the resource takes over what is new to it; the
listing and all other resources stay. -/
theorem addTo_of_has (hdecl : (ofEdits basePath es).resource? r = some decl)
    (hhas : decl.Has d.operation.path d.operation.httpMethod) :
    (ofEdits basePath es).addTo d r =
      ⟨(ofEdits basePath es).listing, (ofEdits basePath es).apis.insert r (decl.absorb d)⟩ := by
  have hlisted : "/" ++ r ∈ (ofEdits basePath es).listing.apis.map (·.path) :=
    (consistent_ofEdits basePath es).listed hdecl
  have hget : (ofEdits basePath es).apis.get? r = some decl := hdecl
  calc (ofEdits basePath es).addTo d r
      = ⟨(ofEdits basePath es).listing.addRef ("/" ++ r) d.operation.summary,
          (ofEdits basePath es).apis.insert r (extended (((ofEdits basePath es).apis.get? r).getD
            ((ofEdits basePath es).listing.declare ("/" ++ r))) d)⟩ := rfl
    _ = ⟨(ofEdits basePath es).listing, (ofEdits basePath es).apis.insert r (decl.absorb d)⟩ := by
      rw [ResourceListing.addRef_eq_self hlisted, hget, Option.getD_some,
        extended_of_has hdecl hhas]

/-- **An operation that is there already is dropped, but not its content types and its models.**
Adding it succeeds; the listing, the other resources and the routes of its own stay as they are; and
after its own content types and models, the resource has those of the dropped operation, the first of
each content type and of each id.  The document stays as it is just if all of them were known. -/
theorem add_of_has (basePath : String) {es : List Edit} {d : Draft} {r : String}
    {decl : ApiDeclaration} (hresource : d.resourceName? = some r)
    (hdecl : (ofEdits basePath es).resource? r = some decl)
    (hhas : decl.Has d.operation.path d.operation.httpMethod) :
    ∃ doc' models, (ofEdits basePath es).add d = .ok doc' ∧
      doc'.listing = (ofEdits basePath es).listing ∧
      (∀ r' ≠ r, doc'.resource? r' = (ofEdits basePath es).resource? r') ∧
      doc'.resource? r = some { decl with
        consumes := decl.consumes ++ (firsts id d.operation.consumes).filter (· ∉ decl.consumes)
        produces := decl.produces ++ (firsts id d.operation.produces).filter (· ∉ decl.produces)
        models } ∧
      (∀ id, models.get? id = (decl.models.get? id).or (d.models.find? (·.id = id))) ∧
      (doc' = ofEdits basePath es ↔ decl.Knows d) := by
  have hadd : (ofEdits basePath es).add d = .ok ((ofEdits basePath es).addTo d r) := by
    unfold add
    rw [hresource]
  rw [addTo_of_has hdecl hhas] at hadd
  refine ⟨_, (decl.absorb d).models, hadd, rfl, fun r' hr' => ?_, ?_,
    Model.get?_foldl_insertNew decl.models d.models, ?_⟩
  · exact KeyMap.get?_insert.trans (if_neg hr')
  · rw [← foldl_pushNew_eq, ← foldl_pushNew_eq]
    exact KeyMap.get?_insert_self _ _ _
  · rw [← ApiDeclaration.absorb_eq_self]
    constructor
    · intro h
      have hsame := congrArg (fun doc : Document => doc.resource? r) h
      exact Option.some.inj ((KeyMap.get?_insert_self _ _ _).symm.trans (hsame.trans hdecl))
    · intro h
      rw [h, KeyMap.insert_of_get? hdecl]

/-! ### Orders listed in JSON -/

def listOrders : Draft where
  operation := { httpMethod := "GET", path := "/orders" }

/-- The same path and method, with a content type and a model. -/
def listJsonOrders : Draft where
  operation := { httpMethod := "GET", path := "/orders", consumes := ["application/json"] }
  models := [{ id := "shop.Order" }]

/-- The declaration of the orders before they are listed in JSON. -/
def listedOrders : ApiDeclaration where
  resourcePath := "/orders"
  apis := [{ path := "/orders", operations := [listOrders] }]

theorem listedOrders_has :
    listedOrders.Has listJsonOrders.operation.path listJsonOrders.operation.httpMethod :=
  ⟨_, List.mem_singleton_self _, _, List.mem_singleton_self _, rfl, rfl⟩

theorem add_of_has_orders :
    listJsonOrders.resourceName? = some "orders" ∧
    (ofEdits "" [.add listOrders]).resource? "orders" = some listedOrders ∧
    listedOrders.Has listJsonOrders.operation.path listJsonOrders.operation.httpMethod ∧
    ∃ doc' models, (ofEdits "" [.add listOrders]).add listJsonOrders = .ok doc' ∧
      doc'.listing = (ofEdits "" [.add listOrders]).listing ∧
      doc'.resource? "orders" =
        some { listedOrders with consumes := ["application/json"], models } ∧
      models.get? "shop.Order" = some { id := "shop.Order" } ∧
      doc' ≠ ofEdits "" [.add listOrders] := by
  have hresource : listJsonOrders.resourceName? = some "orders" := by decide +kernel
  have hdecl : (ofEdits "" [.add listOrders]).resource? "orders" = some listedOrders := by
    decide +kernel
  obtain ⟨doc', models, hadd, hlisting, -, hget, hmodels, hknown⟩ :=
    add_of_has "" hresource hdecl listedOrders_has
  refine ⟨hresource, hdecl, listedOrders_has, doc', models, hadd, hlisting, hget, hmodels _, ?_⟩
  intro hsame
  exact absurd ((hknown.mp hsame).consumes List.mem_cons_self) List.not_mem_nil

/-- A dropped operation does not leave each document as it is. -/
theorem add_not_unchanged :
    ¬ ∀ (basePath : String) (es : List Edit) (d : Draft) (r : String) (decl : ApiDeclaration),
      d.resourceName? = some r → (ofEdits basePath es).resource? r = some decl →
        decl.Has d.operation.path d.operation.httpMethod →
          (ofEdits basePath es).add d = .ok (ofEdits basePath es) := by
  intro h
  have hadd := h "" [.add listOrders] listJsonOrders "orders" listedOrders (by decide +kernel)
    (by decide +kernel) listedOrders_has
  have hsame : (ofEdits "" [.add listOrders]).edit (.add listJsonOrders) =
      ofEdits "" [.add listOrders] := by
    simp only [edit, hadd, Except.toOption, Option.getD_some]
  exact absurd hsame (by decide +kernel)

end Document

end ApiScribe
