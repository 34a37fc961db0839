import ApiScribe.Document.Edit
import Mathlib.Data.List.Induction

/-!
# Operations by resource, path and method

* `Edit.addedTo` — the operations that some edits add to a resource, in their order;
* `Api.grouped` — these operations by path and method, the first of each;
* `routes?_ofEdits` — a document holds, for each resource, the operations that were added to it, so
  grouped, and no resource without operations;
* `operations_ofEdits` — the same for resources, paths and methods one by one.
-/

namespace ApiScribe

/-! ### Grouped operations -/

namespace Api

/-- The entry of a path: of the operations on it, the first with each method, without their
models. -/
def entry (ds : List Draft) (path : String) : Api where
  path := path
  operations := (firsts (·.operation.httpMethod)
    (ds.filter (·.operation.path = path))).map Draft.emptied

/-- The entries of the paths of some operations, in the order in which the paths first occur. -/
def grouped (ds : List Draft) : List Api :=
  (firsts (·.operation.path) ds).map fun d => entry ds d.operation.path

theorem path_grouped (ds : List Draft) :
    (grouped ds).map (·.path) = (firsts (·.operation.path) ds).map (·.operation.path) := by
  unfold grouped
  rw [List.map_map]
  rfl

theorem nodup_path_grouped (ds : List Draft) : ((grouped ds).map (·.path)).Nodup := by
  rw [path_grouped]
  exact nodup_firsts ds

theorem mem_path_grouped {ds : List Draft} {path : String} :
    (∃ api ∈ grouped ds, api.path = path) ↔ ∃ d ∈ ds, d.operation.path = path := by
  unfold grouped
  constructor
  · rintro ⟨api, h, rfl⟩
    obtain ⟨d, hd, rfl⟩ := List.mem_map.mp h
    exact ⟨d, mem_of_mem_firsts hd, rfl⟩
  · rintro ⟨d, hd, rfl⟩
    obtain ⟨e, he, hpath⟩ := exists_mem_firsts (·.operation.path) hd
    exact ⟨_, List.mem_map.mpr ⟨e, he, rfl⟩, hpath⟩

/-! ### One more operation -/

theorem push_entry (ds : List Draft) (d : Draft) :
    (entry ds d.operation.path).push d.emptied = entry (ds ++ [d]) d.operation.path := by
  have hany : (entry ds d.operation.path).operations.any
      (·.operation.httpMethod == d.emptied.operation.httpMethod) ↔
        ∃ e ∈ ds.filter (·.operation.path = d.operation.path),
          e.operation.httpMethod = d.operation.httpMethod := by
    unfold entry
    rw [List.any_map, List.any_eq_true]
    constructor
    · rintro ⟨e, he, hmethod⟩
      exact ⟨e, mem_of_mem_firsts he, by simpa using hmethod⟩
    · rintro ⟨e, he, hmethod⟩
      obtain ⟨f, hf, hfe⟩ := exists_mem_firsts (·.operation.httpMethod) he
      exact ⟨f, hf, by simpa using hfe.trans hmethod⟩
  have hfilter : (ds ++ [d]).filter (·.operation.path = d.operation.path) =
      ds.filter (·.operation.path = d.operation.path) ++ [d] := by
    simp
  unfold push
  split
  · rename_i h
    unfold entry
    rw [hfilter, firsts_concat, if_pos (hany.mp h)]
  · rename_i h
    unfold entry
    rw [hfilter, firsts_concat, if_neg fun h' => h (hany.mpr h')]
    simp

theorem entry_concat_of_ne {ds : List Draft} {d : Draft} {path : String}
    (h : d.operation.path ≠ path) : entry (ds ++ [d]) path = entry ds path := by
  simp [entry, h]

/-- Among entries with distinct paths, an operation goes to the one with its path. -/
theorem pushTo_eq {d : Draft} {apis : List Api} (h : (apis.map (·.path)).Nodup) :
    pushTo d apis =
      if ∃ api ∈ apis, api.path = d.operation.path then
        apis.map fun api => if api.path = d.operation.path then api.push d else api
      else apis ++ [{ path := d.operation.path, operations := [d] }] := by
  induction apis with
  | nil => rfl
  | cons api apis ih =>
    obtain ⟨hnew, hrest⟩ := List.nodup_cons.mp h
    rw [pushTo]
    split
    · rename_i hpath
      have hothers : ∀ other ∈ apis, other.path ≠ d.operation.path := fun other hother heq =>
        hnew (List.mem_map.mpr ⟨other, hother, heq.trans hpath.symm⟩)
      rw [if_pos ⟨api, List.mem_cons_self, hpath⟩, List.map_cons, if_pos hpath]
      congr 1
      exact (List.map_id apis).symm.trans
        (List.map_congr_left fun other hother => (if_neg (hothers other hother)).symm)
    · rename_i hpath
      rw [ih hrest]
      have hiff : (∃ other ∈ api :: apis, other.path = d.operation.path) ↔
          ∃ other ∈ apis, other.path = d.operation.path := by simp [hpath]
      simp only [hiff]
      split
      · rw [List.map_cons, if_neg hpath]
      · rfl

/-- **Adding an operation to grouped operations groups it with them.** -/
theorem pushTo_grouped (ds : List Draft) (d : Draft) :
    pushTo d.emptied (grouped ds) = grouped (ds ++ [d]) := by
  have hnew : grouped (ds ++ [d]) = (firsts (·.operation.path) (ds ++ [d])).map fun e =>
      entry (ds ++ [d]) e.operation.path := rfl
  rw [pushTo_eq (nodup_path_grouped ds), hnew, firsts_concat, Draft.operation_emptied]
  by_cases h : ∃ e ∈ ds, e.operation.path = d.operation.path
  · rw [if_pos (mem_path_grouped.mpr h), if_pos h, grouped, List.map_map]
    refine List.map_congr_left fun e _ => ?_
    show (if e.operation.path = d.operation.path then (entry ds e.operation.path).push d.emptied
      else entry ds e.operation.path) = entry (ds ++ [d]) e.operation.path
    split
    · rename_i heq
      rw [heq, push_entry]
    · rename_i hne
      exact (entry_concat_of_ne fun heq => hne heq.symm).symm
  · have hfilter : ds.filter (·.operation.path = d.operation.path) = [] :=
      List.filter_eq_nil_iff.mpr fun e he => by simpa using fun heq => h ⟨e, he, heq⟩
    rw [if_neg fun h' => h (mem_path_grouped.mp h'), if_neg h, List.map_append, grouped]
    congr 1
    · refine List.map_congr_left fun e he => (entry_concat_of_ne fun heq => ?_).symm
      exact h ⟨e, mem_of_mem_firsts he, heq.symm⟩
    · simp [entry, firsts, hfilter, Draft.emptied]

end Api

/-! ### What some edits add -/

namespace Document

/-- The operation that an edit adds to a resource. -/
def Edit.addedTo? (resource : String) : Edit → Option Draft
  | .add d => if d.resourceName? = some resource then some d else none
  | _ => none

/-- The operations that some edits add to a resource. -/
def Edit.addedTo (resource : String) (es : List Edit) : List Draft :=
  es.filterMap (Edit.addedTo? resource)

theorem Edit.addedTo?_add (resource : String) (d : Draft) :
    (Edit.add d).addedTo? resource = if d.resourceName? = some resource then some d else none := rfl

theorem Edit.addedTo_concat (resource : String) (es : List Edit) (e : Edit) :
    Edit.addedTo resource (es ++ [e]) =
      Edit.addedTo resource es ++ (e.addedTo? resource).toList := by
  unfold Edit.addedTo
  rw [List.filterMap_append, List.filterMap_cons, List.filterMap_nil]
  cases e.addedTo? resource <;> rfl

theorem Edit.mem_addedTo {resource : String} {es : List Edit} {d : Draft} :
    d ∈ Edit.addedTo resource es ↔ .add d ∈ es ∧ d.resourceName? = some resource := by
  unfold Edit.addedTo
  rw [List.mem_filterMap]
  constructor
  · rintro ⟨e, he, hd⟩
    cases e with
    | add d' =>
      rw [Edit.addedTo?_add] at hd
      obtain ⟨hresource, hd⟩ := Option.ite_none_right_eq_some.mp hd
      cases hd
      exact ⟨he, hresource⟩
    | subApi line => cases hd
    | info line => cases hd
  · rintro ⟨he, hd⟩
    exact ⟨_, he, if_pos hd⟩

variable {doc : Document}

/-- An operation can be added just if it has a resource. -/
theorem add_isOk {d : Draft} : (∃ doc', doc.add d = .ok doc') ↔ ∃ r, d.resourceName? = some r := by
  unfold add
  cases d.resourceName? <;> simp

/-! ### One edit -/

theorem apis_applyInfo (doc : Document) (line : String) : (doc.applyInfo line).apis = doc.apis := by
  unfold applyInfo
  split <;> rfl

/-- A declaration with one more operation. -/
def extended (decl : ApiDeclaration) (d : Draft) : ApiDeclaration :=
  { decl.absorb d with apis := Api.pushTo d.emptied decl.apis }

/-- **An edit that adds an operation extends the declaration of its resource**, which comes into being
if there is none; all other declarations stay. -/
theorem resource?_edit (doc : Document) (e : Edit) (r : String) :
    (doc.edit e).resource? r = match e.addedTo? r with
      | some d => some (extended ((doc.resource? r).getD (doc.listing.declare ("/" ++ r))) d)
      | none => doc.resource? r := by
  cases e with
  | add d =>
    rw [Edit.addedTo?_add]
    cases hd : d.resourceName? with
    | none => simp [edit_add_none hd]
    | some resource =>
      rw [edit_add_some hd]
      unfold resource? addTo
      rw [KeyMap.get?_insert]
      by_cases h : r = resource
      · subst h
        simp only [if_true]
        rfl
      · simp [h, Ne.symm h]
  | subApi line =>
    show _ = doc.resource? r
    cases hs : SubApi.read? line with
    | none => rw [edit_subApi_none hs]
    | some s => rw [edit_subApi_some hs]; rfl
  | info line =>
    show (doc.applyInfo line).resource? r = doc.resource? r
    unfold resource?
    rw [apis_applyInfo]

/-- The routes of a resource, if it is there. -/
def routes? (doc : Document) (resource : String) : Option (List Api) :=
  (doc.resource? resource).map (·.apis)

theorem routes?_edit (doc : Document) (e : Edit) (r : String) :
    (doc.edit e).routes? r = match e.addedTo? r with
      | some d => some (Api.pushTo d.emptied ((doc.routes? r).getD []))
      | none => doc.routes? r := by
  unfold routes?
  rw [resource?_edit]
  cases e.addedTo? r with
  | some d => cases doc.resource? r <;> rfl
  | none => rfl

/-! ### All edits -/

/-- **The routes of a resource are the operations that were added to it, grouped**; without any, the
resource is not there. -/
theorem routes?_ofEdits (basePath : String) (es : List Edit) (r : String) :
    (ofEdits basePath es).routes? r =
      if Edit.addedTo r es = [] then none else some (Api.grouped (Edit.addedTo r es)) := by
  induction es using List.reverseRecOn with
  | nil => rfl
  | append_singleton es e ih =>
    rw [ofEdits_concat, routes?_edit, Edit.addedTo_concat]
    cases he : e.addedTo? r with
    | none => simpa using ih
    | some d =>
      have hroutes : ((ofEdits basePath es).routes? r).getD [] =
          Api.grouped (Edit.addedTo r es) := by
        rw [ih]
        split
        · rename_i hnil
          rw [hnil]
          rfl
        · rfl
      simp only [hroutes, Api.pushTo_grouped]
      simp

theorem apis_ofEdits {basePath : String} {es : List Edit} {r : String} {decl : ApiDeclaration}
    (hdecl : (ofEdits basePath es).resource? r = some decl) :
    decl.apis = Api.grouped (Edit.addedTo r es) := by
  have hroutes : (ofEdits basePath es).routes? r = some decl.apis := by
    rw [routes?, hdecl, Option.map_some]
  rw [routes?_ofEdits] at hroutes
  split at hroutes
  · cases hroutes
  · exact (Option.some.inj hroutes).symm

theorem mem_keys_apis {r : String} :
    r ∈ doc.apis.keys ↔ ∃ apis, doc.routes? r = some apis := by
  rw [KeyMap.mem_keys, KeyMap.contains_iff]
  unfold routes? resource?
  constructor
  · rintro ⟨decl, h⟩
    exact ⟨_, Option.map_eq_some_iff.mpr ⟨decl, h, rfl⟩⟩
  · rintro ⟨apis, h⟩
    obtain ⟨decl, h, -⟩ := Option.map_eq_some_iff.mp h
    exact ⟨decl, h⟩

/-- **No operation is lost or added twice, and the first one stays.**  An operation is added just if
it has a resource; the resources of a document are those of the added operations; the entries of a
resource are the distinct paths of its operations, in the order in which they were first added; and on
a path stands, of the operations with that resource and path, the first with each method, in order and
as it was added, but for its models. -/
theorem operations_ofEdits (basePath : String) (es : List Edit) :
    (∀ (doc : Document) d, (∃ doc', doc.add d = .ok doc') ↔ ∃ r, d.resourceName? = some r) ∧
    (∀ r, r ∈ (ofEdits basePath es).apis.keys ↔ ∃ d, .add d ∈ es ∧ d.resourceName? = some r) ∧
    ∀ r decl, (ofEdits basePath es).resource? r = some decl →
      decl.apis.map (·.path) = firsts id ((Edit.addedTo r es).map (·.operation.path)) ∧
      ∀ api ∈ decl.apis, api.operations = (firsts (·.operation.httpMethod)
        ((Edit.addedTo r es).filter (·.operation.path = api.path))).map
          fun d => { d with models := [] } := by
  refine ⟨fun _ _ => add_isOk, fun r => ?_, fun r decl hdecl => ?_⟩
  · rw [mem_keys_apis, routes?_ofEdits]
    constructor
    · rintro ⟨apis, h⟩
      split at h
      · cases h
      · rename_i hne
        obtain ⟨d, hd⟩ := List.exists_mem_of_ne_nil _ hne
        exact ⟨d, Edit.mem_addedTo.mp hd⟩
    · rintro ⟨d, hd⟩
      rw [if_neg (List.ne_nil_of_mem (Edit.mem_addedTo.mpr hd))]
      exact ⟨_, rfl⟩
  · have hroutes : (ofEdits basePath es).routes? r = some decl.apis := by
      unfold routes?
      rw [hdecl, Option.map_some]
    rw [routes?_ofEdits] at hroutes
    split at hroutes
    · cases hroutes
    · have hapis : decl.apis = Api.grouped (Edit.addedTo r es) := (Option.some.inj hroutes).symm
      rw [hapis, Api.path_grouped, map_firsts]
      refine ⟨rfl, fun api hapi => ?_⟩
      obtain ⟨d, -, rfl⟩ := List.mem_map.mp hapi
      rfl

end Document

end ApiScribe
