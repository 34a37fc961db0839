/-!
Finite maps from strings, listed in the order of their keys.  Equal maps have equal listings, so a
map is determined by what it answers.
-/

namespace ApiScribe

/-- A map from strings to `α`: its pairs, in strictly ascending order of the keys. -/
structure KeyMap (α : Type u) where
  /-- The pairs of the map in key order. -/
  entries : List (String × α)
  ascending : entries.Pairwise fun a b => a.1 < b.1

namespace KeyMap

variable {α β : Type u}

/-- Puts a pair into an ascending list, in place of a pair with the same key. -/
def place (k : String) (v : α) : List (String × α) → List (String × α)
  | [] => [(k, v)]
  | (k', v') :: es =>
    if k < k' then (k, v) :: (k', v') :: es
    else if k = k' then (k, v) :: es
    else (k', v') :: place k v es

theorem mem_place {k : String} {v : α} {es : List (String × α)} {e : String × α}
    (h : e ∈ place k v es) : e = (k, v) ∨ e ∈ es := by
  induction es with
  | nil => exact Or.inl (List.mem_singleton.mp h)
  | cons x es ih =>
    unfold place at h
    split at h
    · exact List.mem_cons.mp h
    · split at h
      · rcases List.mem_cons.mp h with h | h
        · exact Or.inl h
        · exact Or.inr (List.mem_cons_of_mem _ h)
      · rcases List.mem_cons.mp h with h | h
        · exact Or.inr (h ▸ List.mem_cons_self)
        · exact (ih h).imp_right (List.mem_cons_of_mem _)

theorem pairwise_place {k : String} {v : α} {es : List (String × α)}
    (h : es.Pairwise fun a b => a.1 < b.1) : (place k v es).Pairwise fun a b => a.1 < b.1 := by
  induction es with
  | nil => exact List.pairwise_singleton _ _
  | cons x es ih =>
    obtain ⟨hx, hes⟩ := List.pairwise_cons.mp h
    unfold place
    split
    · refine List.pairwise_cons.mpr ⟨fun e he => ?_, h⟩
      rcases List.mem_cons.mp he with rfl | he
      · assumption
      · exact String.lt_trans ‹_› (hx e he)
    · split
      · rename_i hk
        exact List.pairwise_cons.mpr ⟨fun e he => hk ▸ hx e he, hes⟩
      · rename_i h1 h2
        refine List.pairwise_cons.mpr ⟨fun e he => ?_, ih hes⟩
        rcases mem_place he with rfl | he
        · exact Std.lt_of_le_of_ne (String.not_lt.mp h1) (Ne.symm h2)
        · exact hx e he

def empty : KeyMap α := ⟨[], List.Pairwise.nil⟩

instance : EmptyCollection (KeyMap α) := ⟨empty⟩

instance : Inhabited (KeyMap α) := ⟨empty⟩

def get? (m : KeyMap α) (k : String) : Option α := m.entries.lookup k

def contains (m : KeyMap α) (k : String) : Bool := (m.get? k).isSome

/-- The map with `v` at `k`. -/
def insert (m : KeyMap α) (k : String) (v : α) : KeyMap α :=
  ⟨place k v m.entries, pairwise_place m.ascending⟩

/-- The map with `v` at `k`, unless `k` already has a value. -/
def insertNew (m : KeyMap α) (k : String) (v : α) : KeyMap α :=
  if m.contains k then m else m.insert k v

def map (f : α → β) (m : KeyMap α) : KeyMap β :=
  ⟨m.entries.map fun e => (e.1, f e.2), List.pairwise_map.mpr m.ascending⟩

/-- The keys in ascending order. -/
def keys (m : KeyMap α) : List String := m.entries.map Prod.fst

def values (m : KeyMap α) : List α := m.entries.map Prod.snd

def isEmpty (m : KeyMap α) : Bool := m.entries.isEmpty

/-- The map that holds the pairs of a list; of two pairs with one key the later counts. -/
def ofList (es : List (String × α)) : KeyMap α := es.foldl (fun m e => m.insert e.1 e.2) ∅

/-! ### What a map answers -/

theorem lookup_cons {k k' : String} {v : α} {es : List (String × α)} :
    ((k, v) :: es).lookup k' = if k' = k then some v else es.lookup k' := by
  rw [List.lookup_cons]
  by_cases h : k' = k
  · rw [if_pos h, beq_iff_eq.mpr h]
  · rw [if_neg h, beq_eq_false_iff_ne.mpr h]

theorem lookup_place {k k' : String} {v : α} {es : List (String × α)} :
    (place k v es).lookup k' = if k' = k then some v else es.lookup k' := by
  induction es with
  | nil => exact lookup_cons
  | cons x es ih =>
    obtain ⟨k₁, v₁⟩ := x
    unfold place
    split
    · rw [lookup_cons]
    · split
      · rename_i hk
        subst hk
        rw [lookup_cons, lookup_cons]
        split <;> rfl
      · rename_i hk
        rw [lookup_cons, lookup_cons, ih]
        by_cases h : k' = k
        · subst h
          rw [if_pos rfl, if_pos rfl, if_neg hk]
        · rw [if_neg h, if_neg h]

@[simp] theorem get?_empty (k : String) : (∅ : KeyMap α).get? k = none := rfl

theorem get?_insert {m : KeyMap α} {k k' : String} {v : α} :
    (m.insert k v).get? k' = if k' = k then some v else m.get? k' := lookup_place

@[simp] theorem get?_insert_self (m : KeyMap α) (k : String) (v : α) :
    (m.insert k v).get? k = some v := by
  rw [get?_insert, if_pos rfl]

theorem of_get?_insert {P : String → β → Prop} {m : KeyMap β} {key : String} {value : β}
    (h : ∀ {k v}, m.get? k = some v → P k v) (hvalue : P key value) {k : String} {v : β}
    (hget : (m.insert key value).get? k = some v) : P k v := by
  rw [get?_insert] at hget
  split at hget
  · rename_i hk
    cases hget
    exact hk ▸ hvalue
  · exact h hget

theorem contains_iff {m : KeyMap α} {k : String} : m.contains k ↔ ∃ v, m.get? k = some v := by
  unfold contains
  exact Option.isSome_iff_exists

theorem contains_insert_iff {m : KeyMap α} {k k' : String} {v : α} :
    (m.insert k v).contains k' ↔ k' = k ∨ m.contains k' := by
  rw [contains_iff, contains_iff, get?_insert]
  split
  · rename_i hk
    exact ⟨fun _ => Or.inl hk, fun _ => ⟨v, rfl⟩⟩
  · rename_i hk
    exact ⟨Or.inr, fun h => h.resolve_left hk⟩

theorem contains_insert {m : KeyMap α} {k k' : String} {v : α} (h : k' = k ∨ m.contains k') :
    (m.insert k v).contains k' := contains_insert_iff.mpr h

theorem get?_insertNew {m : KeyMap α} {k k' : String} {v : α} :
    (m.insertNew k v).get? k' = (m.get? k').or (if k' = k then some v else none) := by
  unfold insertNew
  split
  · rename_i hk
    by_cases hk' : k' = k
    · obtain ⟨u, hu⟩ := contains_iff.mp hk
      rw [hk', hu, Option.some_or]
    · rw [if_neg hk', Option.or_none]
  · rename_i hk
    have hnone : m.get? k = none := by simpa [contains] using hk
    rw [get?_insert]
    by_cases hk' : k' = k
    · rw [hk', if_pos rfl, hnone, Option.none_or, if_pos rfl]
    · rw [if_neg hk', if_neg hk', Option.or_none]

/-- What holds of all values by their keys still does when one may have been put in for which it
holds. -/
theorem of_get?_insertNew {P : String → β → Prop} {m : KeyMap β} {key : String} {value : β}
    (h : ∀ {k v}, m.get? k = some v → P k v) (hvalue : P key value) {k : String} {v : β}
    (hget : (m.insertNew key value).get? k = some v) : P k v := by
  unfold insertNew at hget
  split at hget
  · exact h hget
  · exact of_get?_insert h hvalue hget

@[simp] theorem get?_map (f : α → β) (m : KeyMap α) (k : String) :
    (m.map f).get? k = (m.get? k).map f := by
  show (m.entries.map fun e => (e.1, f e.2)).lookup k = (m.entries.lookup k).map f
  induction m.entries with
  | nil => rfl
  | cons x es ih =>
    obtain ⟨k₁, v₁⟩ := x
    rw [List.map_cons, lookup_cons, lookup_cons, ih]
    split <;> rfl

theorem mem_of_lookup {k : String} {v : α} {es : List (String × α)} (h : es.lookup k = some v) :
    (k, v) ∈ es := by
  induction es with
  | nil => cases h
  | cons x es ih =>
    obtain ⟨k₁, v₁⟩ := x
    rw [lookup_cons] at h
    split at h
    · rename_i hk
      cases h
      exact hk ▸ List.mem_cons_self
    · exact List.mem_cons_of_mem _ (ih h)

theorem lookup_of_mem {k : String} {v : α} {es : List (String × α)}
    (hes : es.Pairwise fun a b => a.1 < b.1) (h : (k, v) ∈ es) : es.lookup k = some v := by
  induction es with
  | nil => cases h
  | cons x es ih =>
    obtain ⟨k₁, v₁⟩ := x
    obtain ⟨hx, hes⟩ := List.pairwise_cons.mp hes
    rw [lookup_cons]
    rcases List.mem_cons.mp h with h | h
    · cases h
      rw [if_pos rfl]
    · have hk : k ≠ k₁ := fun hk => String.lt_irrefl k (hk ▸ hx _ h)
      rw [if_neg hk]
      exact ih hes h

theorem mem_entries {m : KeyMap α} {k : String} {v : α} : (k, v) ∈ m.entries ↔ m.get? k = some v :=
  ⟨lookup_of_mem m.ascending, mem_of_lookup⟩

theorem mem_values {m : KeyMap α} {v : α} : v ∈ m.values ↔ ∃ k, m.get? k = some v := by
  unfold values
  constructor
  · intro h
    obtain ⟨⟨k, v⟩, he, rfl⟩ := List.mem_map.mp h
    exact ⟨k, mem_entries.mp he⟩
  · rintro ⟨k, h⟩
    exact List.mem_map.mpr ⟨(k, v), mem_entries.mpr h, rfl⟩

theorem mem_keys {m : KeyMap α} {k : String} : k ∈ m.keys ↔ m.contains k := by
  unfold keys
  rw [contains_iff]
  constructor
  · intro h
    obtain ⟨⟨k, v⟩, he, rfl⟩ := List.mem_map.mp h
    exact ⟨v, mem_entries.mp he⟩
  · rintro ⟨v, h⟩
    exact List.mem_map.mpr ⟨(k, v), mem_entries.mpr h, rfl⟩

theorem nodup_keys (m : KeyMap α) : m.keys.Nodup := by
  unfold keys
  rw [List.Nodup, List.pairwise_map]
  refine m.ascending.imp fun hlt heq => ?_
  rw [heq] at hlt
  exact String.lt_irrefl _ hlt

theorem mem_of_get?_ofList {es : List (String × α)} {k : String} {v : α}
    (h : (ofList es).get? k = some v) : (k, v) ∈ es := by
  have key : ∀ (es : List (String × α)) (m : KeyMap α),
      (es.foldl (fun m e => m.insert e.1 e.2) m).get? k = some v →
        (k, v) ∈ es ∨ m.get? k = some v := by
    intro es
    induction es with
    | nil => exact fun m h => Or.inr h
    | cons e es ih =>
      intro m h
      rcases ih _ h with h | h
      · exact Or.inl (List.mem_cons_of_mem _ h)
      · rw [get?_insert] at h
        split at h
        · rename_i hk
          cases h
          exact Or.inl (hk ▸ List.mem_cons_self)
        · exact Or.inr h
  exact (key es ∅ h).resolve_right fun h => nomatch h

theorem mem_keys_ofList {es : List (String × α)} {k : String} :
    k ∈ (ofList es).keys ↔ k ∈ es.map Prod.fst := by
  have key : ∀ (es : List (String × α)) (m : KeyMap α),
      (k ∈ es.map Prod.fst ∨ m.contains k) →
        (es.foldl (fun m e => m.insert e.1 e.2) m).contains k := by
    intro es
    induction es with
    | nil => exact fun m h => h.resolve_left fun h => nomatch h
    | cons e es ih =>
      intro m h
      refine ih _ ?_
      rcases h with h | h
      · rcases List.mem_cons.mp h with h | h
        · exact Or.inr (contains_insert (Or.inl h))
        · exact Or.inl h
      · exact Or.inr (contains_insert (Or.inr h))
  constructor
  · intro h
    obtain ⟨v, hv⟩ := contains_iff.mp (mem_keys.mp h)
    exact List.mem_map.mpr ⟨(k, v), mem_of_get?_ofList hv, rfl⟩
  · exact fun h => mem_keys.mpr (key es ∅ (Or.inl h))

/-! ### Equal maps -/

@[ext] theorem ext_entries {m n : KeyMap α} (h : m.entries = n.entries) : m = n := by
  cases m
  cases n
  cases h
  rfl

theorem lookup_eq_none_of_lt {k k' : String} {v : α} {es : List (String × α)}
    (hes : ((k', v) :: es).Pairwise fun a b => a.1 < b.1) (hk : k < k' ∨ k = k') :
    es.lookup k = none := by
  obtain ⟨hx, -⟩ := List.pairwise_cons.mp hes
  refine Option.eq_none_iff_forall_ne_some.mpr fun v h => ?_
  have hlt := hx _ (mem_of_lookup h)
  rcases hk with hk | rfl
  · exact String.lt_irrefl k (String.lt_trans hk hlt)
  · exact String.lt_irrefl k hlt

/-- **A map is determined by what it answers.** -/
theorem ext_get? {m n : KeyMap α} (h : ∀ k, m.get? k = n.get? k) : m = n := by
  have key : ∀ es fs : List (String × α), (es.Pairwise fun a b => a.1 < b.1) →
      (fs.Pairwise fun a b => a.1 < b.1) → (∀ k, es.lookup k = fs.lookup k) → es = fs := by
    intro es
    induction es with
    | nil =>
      rintro (_ | ⟨⟨k, v⟩, fs⟩) - - h
      · rfl
      · have hk := h k
        rw [lookup_cons, if_pos rfl] at hk
        cases hk
    | cons x es ih =>
      obtain ⟨k, v⟩ := x
      rintro (_ | ⟨⟨k', v'⟩, fs⟩) hes hfs h
      · have hk := h k
        rw [lookup_cons, if_pos rfl] at hk
        cases hk
      · have hkk : k = k' := by
          have hk := h k
          have hk' := h k'
          rw [lookup_cons, lookup_cons, if_pos rfl] at hk hk'
          rcases Std.lt_trichotomy k k' with hlt | heq | hgt
          · rw [if_neg fun he : k = k' => String.lt_irrefl k (he ▸ hlt),
              lookup_eq_none_of_lt hfs (Or.inl hlt)] at hk
            cases hk
          · exact heq
          · rw [if_neg fun he : k' = k => String.lt_irrefl k' (he ▸ hgt),
              lookup_eq_none_of_lt hes (Or.inl hgt)] at hk'
            cases hk'
        subst hkk
        have hv := h k
        rw [lookup_cons, lookup_cons, if_pos rfl, if_pos rfl] at hv
        cases hv
        congr 1
        refine ih fs (List.pairwise_cons.mp hes).2 (List.pairwise_cons.mp hfs).2 fun j => ?_
        have hj := h j
        rw [lookup_cons, lookup_cons] at hj
        split at hj
        · rename_i hjk
          rw [lookup_eq_none_of_lt hes (Or.inr hjk), lookup_eq_none_of_lt hfs (Or.inr hjk)]
        · exact hj
  exact ext_entries (key m.entries n.entries m.ascending n.ascending h)

theorem insert_of_get? {m : KeyMap α} {k : String} {v : α} (h : m.get? k = some v) :
    m.insert k v = m := by
  refine ext_get? fun k' => ?_
  rw [get?_insert]
  split
  · rename_i hk
    rw [hk, h]
  · rfl

/-- **A map is made again from its listing.** -/
theorem ofList_entries (m : KeyMap α) : ofList m.entries = m := by
  refine ext_get? fun k => ?_
  cases hk : m.get? k with
  | none =>
    refine Option.eq_none_iff_forall_ne_some.mpr fun v hv => ?_
    exact absurd (mem_entries.mp (mem_of_get?_ofList hv)) (by rw [hk]; exact nofun)
  | some v =>
    have hkey : k ∈ (ofList m.entries).keys :=
      mem_keys_ofList.mpr (mem_keys.mpr (contains_iff.mpr ⟨v, hk⟩))
    obtain ⟨w, hw⟩ := contains_iff.mp (mem_keys.mp hkey)
    have hentry := mem_entries.mp (mem_of_get?_ofList hw)
    rw [hw, ← hentry, hk]

@[simp] theorem map_id (m : KeyMap α) : m.map id = m :=
  ext_entries (List.map_id _)

instance [DecidableEq α] : DecidableEq (KeyMap α) := fun m n =>
  if h : m.entries = n.entries then isTrue (ext_entries h)
  else isFalse fun e => h (congrArg entries e)

instance [Repr α] : Repr (KeyMap α) := ⟨fun m n => reprPrec m.entries n⟩

end KeyMap

end ApiScribe
