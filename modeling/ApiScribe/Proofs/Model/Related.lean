import ApiScribe.Model.Basic
import Mathlib.Data.List.Forall2

/-!
# Related maps and models

Two maps are related if they have the same keys, with related values; two models, if they also have
the same required names.  Whatever does not look into the values keeps them so: inserting
(`KeyMap.Related.insert`), mapping, and merging (`ModelOf.Related.merge`).
-/

namespace ApiScribe

namespace KeyMap

variable {α β γ δ : Type} {R : α → β → Prop}

/-- The same keys with related values. -/
def Related (R : α → β → Prop) (m : KeyMap α) (n : KeyMap β) : Prop :=
  List.Forall₂ (fun a b => a.1 = b.1 ∧ R a.2 b.2) m.entries n.entries

theorem related_refl {R : α → α → Prop} (h : ∀ a, R a a) (m : KeyMap α) : Related R m m :=
  List.forall₂_same.mpr fun e _ => ⟨rfl, h e.2⟩

theorem lookup_related {es : List (String × α)} {fs : List (String × β)}
    (h : List.Forall₂ (fun a b => a.1 = b.1 ∧ R a.2 b.2) es fs) (k : String) :
    Option.Rel R (es.lookup k) (fs.lookup k) := by
  induction h with
  | nil => exact .none
  | @cons e f es fs hef _ ih =>
    obtain ⟨k₁, v⟩ := e
    obtain ⟨k₂, v'⟩ := f
    obtain ⟨rfl, hv⟩ := hef
    rw [lookup_cons, lookup_cons]
    split
    · exact .some hv
    · exact ih

theorem Related.get? {m : KeyMap α} {n : KeyMap β} (h : Related R m n) (k : String) :
    Option.Rel R (m.get? k) (n.get? k) := lookup_related h k

theorem Related.contains {m : KeyMap α} {n : KeyMap β} (h : Related R m n) (k : String) :
    m.contains k = n.contains k := by
  have hk := h.get? k
  unfold KeyMap.contains
  revert hk
  cases m.get? k <;> cases n.get? k <;> intro hk <;> cases hk <;> rfl

theorem place_related {es : List (String × α)} {fs : List (String × β)}
    (h : List.Forall₂ (fun a b => a.1 = b.1 ∧ R a.2 b.2) es fs) (k : String) {a : α} {b : β}
    (hab : R a b) :
    List.Forall₂ (fun a b => a.1 = b.1 ∧ R a.2 b.2) (place k a es) (place k b fs) := by
  induction h with
  | nil => exact .cons ⟨rfl, hab⟩ .nil
  | @cons e f es fs hef hrest ih =>
    obtain ⟨k₁, v⟩ := e
    obtain ⟨k₂, v'⟩ := f
    obtain ⟨rfl, hv⟩ := hef
    unfold place
    split
    · exact .cons ⟨rfl, hab⟩ (.cons ⟨rfl, hv⟩ hrest)
    · split
      · exact .cons ⟨rfl, hab⟩ hrest
      · exact .cons ⟨rfl, hv⟩ ih

theorem Related.insert {m : KeyMap α} {n : KeyMap β} (h : Related R m n) (k : String) {a : α}
    {b : β} (hab : R a b) : Related R (m.insert k a) (n.insert k b) := place_related h k hab

theorem Related.map {S : γ → δ → Prop} {f : α → γ} {g : β → δ} {m : KeyMap α} {n : KeyMap β}
    (h : Related R m n) (hfg : ∀ a b, R a b → S (f a) (g b)) : Related S (m.map f) (n.map g) := by
  unfold Related KeyMap.map
  rw [List.forall₂_map_left_iff, List.forall₂_map_right_iff]
  exact List.Forall₂.imp (fun _ _ hab => ⟨hab.1, hfg _ _ hab.2⟩) h

end KeyMap

namespace ModelOf

variable {ι κ α β : Type} {R : α → β → Prop}

/-- The same required names, and related properties. -/
structure Related (R : α → β → Prop) (m : ModelOf ι α) (n : ModelOf κ β) : Prop where
  required : m.required = n.required
  properties : m.properties.Related R n.properties

theorem Related.markRequired {m : ModelOf ι α} {n : ModelOf κ β} (h : Related R m n)
    (name : String) : Related R (m.markRequired name) (n.markRequired name) := by
  unfold ModelOf.markRequired
  rw [h.required]
  split
  · exact h
  · exact ⟨rfl, h.properties⟩

theorem Related.mergeProperty {m child : ModelOf ι α} {n child' : ModelOf κ β} (h : Related R m n)
    (hchild : Related R child child') (k : String) {a : α} {b : β} (hab : R a b) :
    Related R (child.mergeProperty m (k, a)) (child'.mergeProperty n (k, b)) := by
  unfold ModelOf.mergeProperty
  dsimp only
  rw [h.properties.contains k, hchild.required]
  split
  · exact h
  · split
    · exact ⟨(h.markRequired k).required, (h.markRequired k).properties.insert k hab⟩
    · exact ⟨h.required, h.properties.insert k hab⟩

/-- **Merging related models into related ones** gives related ones. -/
theorem Related.merge {m child : ModelOf ι α} {n child' : ModelOf κ β} (h : Related R m n)
    (hchild : Related R child child') : Related R (m.merge child) (n.merge child') := by
  have key : ∀ {es : List (String × α)} {fs : List (String × β)},
      List.Forall₂ (fun a b => a.1 = b.1 ∧ R a.2 b.2) es fs →
      ∀ {m : ModelOf ι α} {n : ModelOf κ β}, Related R m n →
        Related R (es.foldl child.mergeProperty m) (fs.foldl child'.mergeProperty n) := by
    intro es fs hes
    induction hes with
    | nil => exact fun h => h
    | @cons e f es fs hef _ ih =>
      intro m n h
      obtain ⟨k₁, v⟩ := e
      obtain ⟨k₂, v'⟩ := f
      obtain ⟨rfl, hv⟩ := hef
      exact ih (h.mergeProperty hchild _ hv)
  exact key hchild.properties h

end ModelOf

end ApiScribe
