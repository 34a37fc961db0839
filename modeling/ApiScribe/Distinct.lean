/-!
Lists without repetition: built by appending what is not there yet, or cut down to the first element
with each key.
-/

namespace ApiScribe

/-- Appends a value that is not in the list yet. -/
def pushNew [DecidableEq α] (xs : List α) (x : α) : List α := if x ∈ xs then xs else xs ++ [x]

theorem mem_pushNew [DecidableEq α] {xs : List α} {x y : α} : y ∈ pushNew xs x ↔ y ∈ xs ∨ y = x := by
  unfold pushNew
  split
  · exact ⟨Or.inl, fun h => h.elim id fun h => h ▸ ‹_›⟩
  · simp

theorem nodup_pushNew [DecidableEq α] {xs : List α} {x : α} (h : xs.Nodup) : (pushNew xs x).Nodup := by
  unfold pushNew
  split
  · exact h
  · exact List.nodup_append.mpr ⟨h, by simp, by
      rintro a ha b hb rfl
      exact ‹¬ x ∈ xs› (List.mem_singleton.mp hb ▸ ha)⟩

theorem mem_foldl_pushNew [DecidableEq α] {xs ys : List α} {y : α} :
    y ∈ xs.foldl pushNew ys ↔ y ∈ ys ∨ y ∈ xs := by
  induction xs generalizing ys with
  | nil => simp
  | cons x xs ih => rw [List.foldl_cons, ih, mem_pushNew, List.mem_cons, or_assoc]

/-! ### The first with each key -/

section

variable [DecidableEq β] (key : α → β)

/-- The elements of a list whose key is not that of an earlier one. -/
def firsts : List α → List α
  | [] => []
  | x :: xs => x :: (firsts xs).filter fun y => key y ≠ key x

variable {key}

theorem mem_of_mem_firsts {xs : List α} {x : α} (h : x ∈ firsts key xs) : x ∈ xs := by
  induction xs with
  | nil => exact h
  | cons y ys ih =>
    rcases List.mem_cons.mp h with rfl | h
    · exact List.mem_cons_self
    · exact List.mem_cons_of_mem _ (ih (List.mem_filter.mp h).1)

variable (key) in
theorem exists_mem_firsts {xs : List α} {x : α} (h : x ∈ xs) :
    ∃ y ∈ firsts key xs, key y = key x := by
  induction xs with
  | nil => cases h
  | cons y ys ih =>
    by_cases hkey : key x = key y
    · exact ⟨y, List.mem_cons_self, hkey.symm⟩
    · have hx : x ∈ ys := (List.mem_cons.mp h).resolve_left fun h => hkey (h ▸ rfl)
      obtain ⟨z, hz, hzx⟩ := ih hx
      have hzy : key z ≠ key y := fun h => hkey (hzx ▸ h)
      exact ⟨z, List.mem_cons_of_mem _ (List.mem_filter.mpr ⟨hz, by simpa using hzy⟩), hzx⟩

theorem mem_firsts_id {xs : List β} {x : β} : x ∈ firsts id xs ↔ x ∈ xs := by
  refine ⟨mem_of_mem_firsts, fun h => ?_⟩
  obtain ⟨y, hy, hyx⟩ := exists_mem_firsts id h
  exact (show y = x from hyx) ▸ hy

theorem nodup_firsts (xs : List α) : ((firsts key xs).map key).Nodup := by
  induction xs with
  | nil => exact List.nodup_nil
  | cons y ys ih =>
    refine List.nodup_cons.mpr ⟨fun h => ?_, ih.sublist (List.filter_sublist.map key)⟩
    obtain ⟨z, hz, hzy⟩ := List.mem_map.mp h
    exact absurd hzy (by simpa using (List.mem_filter.mp hz).2)

theorem map_firsts (xs : List α) : (firsts key xs).map key = firsts id (xs.map key) := by
  induction xs with
  | nil => rfl
  | cons y ys ih =>
    rw [List.map_cons, firsts, firsts, List.map_cons, ← ih, List.filter_map]
    rfl

theorem firsts_congr {γ : Type} [DecidableEq γ] {key' : α → γ} {xs : List α}
    (h : ∀ x ∈ xs, ∀ y ∈ xs, key x = key y ↔ key' x = key' y) : firsts key xs = firsts key' xs := by
  induction xs with
  | nil => rfl
  | cons y ys ih =>
    have hrest : firsts key ys = firsts key' ys := ih fun x hx z hz =>
      h x (List.mem_cons_of_mem _ hx) z (List.mem_cons_of_mem _ hz)
    rw [firsts, firsts, hrest]
    refine congrArg (y :: ·) (List.filter_congr fun z hz => ?_)
    have hkeys := h z (List.mem_cons_of_mem _ (mem_of_mem_firsts hz)) y List.mem_cons_self
    simp only [ne_eq, hkeys]

theorem firsts_map {γ : Type} (f : γ → α) (xs : List γ) :
    firsts key (xs.map f) = (firsts (fun x => key (f x)) xs).map f := by
  induction xs with
  | nil => rfl
  | cons y ys ih =>
    rw [List.map_cons, firsts, firsts, ih, List.map_cons, List.filter_map]
    rfl

theorem firsts_concat (xs : List α) (x : α) :
    firsts key (xs ++ [x]) =
      if ∃ y ∈ xs, key y = key x then firsts key xs else firsts key xs ++ [x] := by
  induction xs with
  | nil => rfl
  | cons y ys ih =>
    rw [List.cons_append, firsts, ih, firsts]
    by_cases hkey : key y = key x
    · have hx : ∃ z ∈ y :: ys, key z = key x := ⟨y, List.mem_cons_self, hkey⟩
      rw [if_pos hx]
      split
      · rfl
      · simp [hkey]
    · have hiff : (∃ z ∈ y :: ys, key z = key x) ↔ ∃ z ∈ ys, key z = key x := by simp [hkey]
      simp only [hiff]
      split
      · rfl
      · simp [Ne.symm hkey]

theorem exists_key_firsts_iff {xs : List α} {x : α} :
    (∃ y ∈ firsts key xs, key y = key x) ↔ ∃ y ∈ xs, key y = key x := by
  constructor
  · rintro ⟨y, hy, hkey⟩
    exact ⟨y, mem_of_mem_firsts hy, hkey⟩
  · rintro ⟨y, hy, hkey⟩
    obtain ⟨z, hz, hzy⟩ := exists_mem_firsts key hy
    exact ⟨z, hz, hzy.trans hkey⟩

theorem firsts_of_nodup {xs : List α} (h : (xs.map key).Nodup) : firsts key xs = xs := by
  induction xs with
  | nil => rfl
  | cons y ys ih =>
    obtain ⟨hy, hys⟩ := List.nodup_cons.mp h
    rw [firsts, ih hys, List.filter_eq_self.mpr]
    intro z hz
    have hkey : key z ≠ key y := fun hkey => hy (hkey ▸ List.mem_map_of_mem hz)
    simpa using hkey

end

section

variable {β : Type u} [DecidableEq β] {key : α → β}

theorem firsts_firsts (xs : List α) : firsts key (firsts key xs) = firsts key xs :=
  firsts_of_nodup (nodup_firsts xs)

/-- Elements may be dropped on the way that are dropped in the end. -/
theorem firsts_firsts_append (xs ys : List α) :
    firsts key (firsts key xs ++ ys) = firsts key (xs ++ ys) := by
  induction ys generalizing xs with
  | nil => rw [List.append_nil, List.append_nil, firsts_firsts]
  | cons y ys ih =>
    have hstep : firsts key (firsts key xs ++ [y]) = firsts key (xs ++ [y]) := by
      simp only [firsts_concat, firsts_firsts, exists_key_firsts_iff]
    calc firsts key (firsts key xs ++ y :: ys)
        = firsts key ((firsts key xs ++ [y]) ++ ys) := by rw [List.append_assoc]; rfl
      _ = firsts key (firsts key (firsts key xs ++ [y]) ++ ys) := (ih _).symm
      _ = firsts key (firsts key (xs ++ [y]) ++ ys) := by rw [hstep]
      _ = firsts key ((xs ++ [y]) ++ ys) := ih _
      _ = firsts key (xs ++ y :: ys) := by rw [List.append_assoc]; rfl

end

/-- Values that are appended unless they are there make up the first of all. -/
theorem foldl_pushNew_firsts [DecidableEq α] (xs ys : List α) :
    ys.foldl pushNew (firsts id xs) = firsts id (xs ++ ys) := by
  induction ys generalizing xs with
  | nil => rw [List.append_nil]; rfl
  | cons y ys ih =>
    have hmem : y ∈ firsts id xs ↔ ∃ x ∈ xs, id x = id y := by
      rw [← exists_key_firsts_iff]
      simp
    have hstep : pushNew (firsts id xs) y = firsts id (xs ++ [y]) := by
      simp only [pushNew, hmem, firsts_concat]
    rw [List.foldl_cons, hstep, ih, List.append_assoc]
    rfl

theorem foldl_pushNew_eq [DecidableEq α] (xs ys : List α) :
    xs.foldl pushNew ys = ys ++ (firsts id xs).filter (· ∉ ys) := by
  induction xs generalizing ys with
  | nil => exact (List.append_nil ys).symm
  | cons x xs ih =>
    rw [List.foldl_cons, ih, firsts, List.filter_cons, List.filter_filter]
    by_cases hx : x ∈ ys
    · have hrest : ∀ y ∈ firsts id xs, decide (y ∉ ys) =
          (decide (y ∉ ys) && decide (id y ≠ id x)) := by
        intro y _
        have hne : y ∉ ys → y ≠ x := fun hy heq => hy (heq ▸ hx)
        simpa using hne
      rw [pushNew, if_pos hx, if_neg (by simpa using hx), List.filter_congr hrest]
    · have hrest : ∀ y ∈ firsts id xs, decide (y ∉ ys ++ [x]) =
          (decide (y ∉ ys) && decide (id y ≠ id x)) := by
        intro y _
        simp
      rw [pushNew, if_neg hx, if_pos (by simpa using hx), List.filter_congr hrest,
        List.append_assoc]
      rfl

theorem foldl_pushNew_eq_self [DecidableEq α] {xs ys : List α} :
    xs.foldl pushNew ys = ys ↔ xs ⊆ ys := by
  rw [foldl_pushNew_eq, List.append_right_eq_self, List.filter_eq_nil_iff]
  constructor
  · intro h x hx
    obtain ⟨y, hy, hyx⟩ := exists_mem_firsts id hx
    have hmem : y ∈ ys := by simpa using h y hy
    exact (show y = x from hyx) ▸ hmem
  · intro h y hy
    simpa using h (mem_of_mem_firsts hy)

end ApiScribe
