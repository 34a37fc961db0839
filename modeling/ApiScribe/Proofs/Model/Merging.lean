import ApiScribe.Proofs.Model.Sketch

/-!
# Merging models in groups

A model takes over what an embedded model has and it has not.  Embedded models may embed others, so it
must not matter whether the merging starts with the outermost model or with the innermost.

* `ModelOf.IsSound` — only names of properties are required, and each once;
* `ModelOf.Agrees` — two models are the same but for the order of what they require;
* `ModelOf.merge_foldl_merge_agrees` — models may be merged with each other before they are merged into
  the one that embeds them;
* `ModelOf.merge_regrouped` — so merging is associative, and of several models the first that has a
  property gives it.
-/

namespace ApiScribe.ModelOf

variable {ι α : Type} {p a b : ModelOf ι α} {k : String}

/-- Only names of properties are required, and each once. -/
structure IsSound (m : ModelOf ι α) : Prop where
  nodup : m.required.Nodup
  named : ∀ k ∈ m.required, m.properties.contains k

/-- The same model, but for the order in which names are required. -/
structure Agrees (m n : ModelOf ι α) : Prop where
  id : m.id = n.id
  properties : m.properties = n.properties
  required : ∀ k, k ∈ m.required ↔ k ∈ n.required

/-! ### The first model with a name -/

@[simp] theorem id_foldl_merge (cs : List (ModelOf ι α)) (p : ModelOf ι α) :
    (cs.foldl merge p).id = p.id :=
  List.foldlRecOn (motive := fun m : ModelOf ι α => m.id = p.id) _ _ rfl fun m h c _ =>
    (id_merge m c).trans h

/-- Of a model and those merged into it, the first that has a property gives it. -/
theorem get?_foldl_merge_eq_first (cs : List (ModelOf ι α)) (p : ModelOf ι α) (k : String) :
    (cs.foldl merge p).properties.get? k = (p :: cs).findSome? fun c => c.properties.get? k := by
  rw [get?_foldl_merge, List.findSome?_cons]
  cases p.properties.get? k <;> rfl

theorem IsSound.mem_required_foldl_merge_iff (hp : p.IsSound) (cs : List (ModelOf ι α)) :
    k ∈ (cs.foldl merge p).required ↔
      ∃ c, (p :: cs).find? (fun c => c.properties.contains k) = some c ∧ k ∈ c.required := by
  rw [mem_required_foldl_merge, List.find?_cons]
  cases hk : p.properties.get? k with
  | none =>
    have hcontains : p.properties.contains k = false := by simp [KeyMap.contains, hk]
    have hfree : k ∉ p.required := fun h => by simpa [hcontains] using hp.named k h
    simp [hcontains, hfree]
  | some v =>
    have hcontains : p.properties.contains k = true := by simp [KeyMap.contains, hk]
    simp [hcontains]

theorem IsSound.foldl_merge (hp : p.IsSound) (cs : List (ModelOf ι α)) :
    (cs.foldl merge p).IsSound where
  nodup := nodup_required_foldl_merge cs hp.nodup
  named := by
    intro k hk
    obtain ⟨c, hc, -⟩ := (hp.mem_required_foldl_merge_iff cs).mp hk
    have hfirst : ((p :: cs).findSome? fun c => c.properties.get? k).isSome := by
      have hhas : (c.properties.get? k).isSome := by simpa [KeyMap.contains] using List.find?_some hc
      exact List.findSome?_isSome_iff.mpr ⟨c, List.mem_of_find?_eq_some hc, hhas⟩
    unfold KeyMap.contains
    rwa [get?_foldl_merge_eq_first]

/-! ### Groups -/

theorem IsSound.mem_required_merge_iff (ha : a.IsSound) (p : ModelOf ι α) (k : String) :
    k ∈ (p.merge a).required ↔ k ∈ p.required ∨ p.properties.get? k = none ∧ k ∈ a.required := by
  have hhas : k ∈ a.required → (a.properties.get? k).isSome := ha.named k
  rw [mem_required_merge]
  tauto

/-- **Models may be merged with each other first.**  Only the first of them must be sound: what it
requires without having it might be had by a later one. -/
theorem merge_foldl_merge_agrees (p : ModelOf ι α) (ha : a.IsSound) (cs : List (ModelOf ι α)) :
    (cs.foldl merge (p.merge a)).Agrees (p.merge (cs.foldl merge a)) where
  id := by simp
  properties := by
    refine KeyMap.ext_get? fun k => ?_
    rw [get?_foldl_merge, get?_merge, get?_merge, get?_foldl_merge, Option.or_assoc]
  required := by
    intro k
    have houter := ha.mem_required_merge_iff p k
    have hinner := (ha.foldl_merge cs).mem_required_merge_iff p k
    rw [hinner, mem_required_foldl_merge, mem_required_foldl_merge, houter, get?_merge,
      Option.or_eq_none_iff]
    tauto

/-- **Merging is associative**, up to the order of what is required: an embedded model may take over
what it embeds before it is merged, or leave that to the model that embeds it.  Whatever is merged into
a model one after the other, each name then has the property of the first that has it, and it is
required if that one requires it; the id stays, and only names of properties are required, each once. -/
theorem merge_regrouped (hp : p.IsSound) (ha : a.IsSound) (b : ModelOf ι α)
    (cs : List (ModelOf ι α)) :
    ((p.merge a).merge b).Agrees (p.merge (a.merge b)) ∧
    let merged := cs.foldl merge p
    merged.id = p.id ∧ merged.IsSound ∧
      (∀ k, merged.properties.get? k = (p :: cs).findSome? fun c => c.properties.get? k) ∧
      ∀ k, k ∈ merged.required ↔
        ∃ c, (p :: cs).find? (fun c => c.properties.contains k) = some c ∧ k ∈ c.required :=
  ⟨merge_foldl_merge_agrees p ha [b], id_foldl_merge cs p, hp.foldl_merge cs,
    get?_foldl_merge_eq_first cs p, fun _ => hp.mem_required_foldl_merge_iff cs⟩

/-- An order that embeds an entity, which embeds what is known of its origin. -/
def orderBody : Model where
  id := "shop.Order"
  required := ["id"]
  properties := .ofList [("id", { type := "string" }), ("total", { type := "int" })]

def entityBody : Model where
  id := "shop.Entity"
  required := ["id", "created"]
  properties := .ofList [("id", { type := "int64" }), ("created", { type := "Time" })]

def originBody : Model where
  id := "shop.Origin"
  required := ["author", "created"]
  properties := .ofList [("author", { type := "string" }), ("created", { type := "string" })]

/-- The time of creation is that of the entity, and it is required. -/
theorem merge_regrouped_order : orderBody.IsSound ∧ entityBody.IsSound ∧
    ((orderBody.merge entityBody).merge originBody).Agrees
      (orderBody.merge (entityBody.merge originBody)) ∧
    let merged := [entityBody, originBody].foldl merge orderBody
    merged.id = "shop.Order" ∧ merged.IsSound ∧
      merged.properties.get? "created" = some { type := "Time" } ∧ "created" ∈ merged.required := by
  have horder : orderBody.IsSound := ⟨by decide, by decide⟩
  have hentity : entityBody.IsSound := ⟨by decide, by decide⟩
  obtain ⟨hagrees, hid, hsound, hfirst, hrequired⟩ :=
    merge_regrouped horder hentity originBody [entityBody, originBody]
  have hcreated : [orderBody, entityBody, originBody].find?
      (fun c => c.properties.contains "created") = some entityBody := by decide
  exact ⟨horder, hentity, hagrees, hid, hsound, (hfirst "created").trans (by decide),
    (hrequired "created").mpr ⟨entityBody, hcreated, by decide⟩⟩

/-- The order of the required names tells which models were merged first. -/
example : ((orderBody.merge entityBody).merge originBody).required = ["id", "created", "author"] ∧
    (orderBody.merge (entityBody.merge originBody)).required = ["id", "author", "created"] := by
  decide

end ApiScribe.ModelOf
