import ApiScribe.Distinct
import ApiScribe.Model.Build
import Mathlib.Data.List.Induction

/-!
# What the parts of a sketch are

* `Sketch.get?_ofFields`, `Sketch.mem_required_ofFields` — each property of a struct is that of the last
  field with its name, and it is required if any of these fields is;
* `ModelOf.get?_merge`, `ModelOf.mem_required_merge` — of an embedded model, the properties whose names
  are free are taken over, and with them that they are required;
* `Sketch.get?_settle` — settling a type name replaces it, part by part.
-/

namespace ApiScribe

namespace ModelOf

variable {ι α : Type}

theorem properties_mergeProperty (child m : ModelOf ι α) (e : String × α) :
    (child.mergeProperty m e).properties = m.properties.insertNew e.1 e.2 := by
  unfold mergeProperty KeyMap.insertNew
  split
  · rfl
  · split <;> simp

theorem get?_mergeProperty (child m : ModelOf ι α) (e : String × α) (k : String) :
    (child.mergeProperty m e).properties.get? k =
      (m.properties.get? k).or (if k = e.1 then some e.2 else none) := by
  rw [properties_mergeProperty, KeyMap.get?_insertNew]

/-- **Merging takes over what is not there yet.** -/
theorem get?_merge (m child : ModelOf ι α) (k : String) :
    (m.merge child).properties.get? k =
      (m.properties.get? k).or (child.properties.get? k) := by
  have key : ∀ (es : List (String × α)) (m : ModelOf ι α),
      (es.foldl child.mergeProperty m).properties.get? k =
        (m.properties.get? k).or (es.lookup k) := by
    intro es
    induction es with
    | nil => exact fun m => (Option.or_none ..).symm
    | cons e es ih =>
      intro m
      rw [List.foldl_cons, ih, get?_mergeProperty, Option.or_assoc]
      obtain ⟨k', v⟩ := e
      rw [KeyMap.lookup_cons]
      split <;> simp
  exact key child.properties.entries m

theorem required_markRequired (m : ModelOf ι α) (name : String) :
    (m.markRequired name).required = pushNew m.required name := by
  unfold markRequired pushNew
  split <;> rfl

theorem required_mergeProperty (child m : ModelOf ι α) (e : String × α) :
    (child.mergeProperty m e).required =
      if m.properties.get? e.1 = none ∧ e.1 ∈ child.required then pushNew m.required e.1
      else m.required := by
  unfold mergeProperty KeyMap.contains
  cases m.properties.get? e.1 with
  | some v => simp
  | none =>
    by_cases hr : e.1 ∈ child.required
    · simp [hr, required_markRequired]
    · simp [hr]

/-- **A required name is taken over together with its property.** -/
theorem mem_required_merge (m child : ModelOf ι α) (k : String) :
    k ∈ (m.merge child).required ↔ k ∈ m.required ∨
      m.properties.get? k = none ∧ (child.properties.get? k).isSome ∧ k ∈ child.required := by
  have key : ∀ (es : List (String × α)) (m : ModelOf ι α),
      k ∈ (es.foldl child.mergeProperty m).required ↔ k ∈ m.required ∨
        m.properties.get? k = none ∧ (es.lookup k).isSome ∧ k ∈ child.required := by
    intro es
    induction es with
    | nil => simp
    | cons e es ih =>
      intro m
      obtain ⟨k', v⟩ := e
      rw [List.foldl_cons, ih, get?_mergeProperty, required_mergeProperty, KeyMap.lookup_cons]
      by_cases hk : k = k'
      · subst hk
        by_cases hfree : m.properties.get? k = none ∧ k ∈ child.required
        · simp [hfree, mem_pushNew]
        · simp [hfree]
      · by_cases hfree : m.properties.get? k' = none ∧ k' ∈ child.required
        · simp [hfree, mem_pushNew, hk]
        · simp [hfree, hk]
  exact key child.properties.entries m

theorem nodup_required_merge {m : ModelOf ι α} (child : ModelOf ι α) (h : m.required.Nodup) :
    (m.merge child).required.Nodup := by
  refine List.foldlRecOn (motive := fun m : ModelOf ι α => m.required.Nodup) _ _ h fun m h e _ => ?_
  rw [required_mergeProperty]
  split
  · exact nodup_pushNew h
  · exact h

/-! ### Several embedded models -/

theorem get?_foldl_merge (cs : List (ModelOf ι α)) (m : ModelOf ι α) (k : String) :
    (cs.foldl merge m).properties.get? k =
      (m.properties.get? k).or (cs.findSome? fun c => c.properties.get? k) := by
  induction cs generalizing m with
  | nil => simp
  | cons c cs ih =>
    rw [List.foldl_cons, ih, get?_merge, Option.or_assoc, List.findSome?_cons]
    cases c.properties.get? k <;> simp

theorem mem_required_foldl_merge (cs : List (ModelOf ι α)) (m : ModelOf ι α) (k : String) :
    k ∈ (cs.foldl merge m).required ↔ k ∈ m.required ∨ m.properties.get? k = none ∧
      ∃ c, cs.find? (fun c => c.properties.contains k) = some c ∧ k ∈ c.required := by
  induction cs generalizing m with
  | nil => simp
  | cons c cs ih =>
    rw [List.foldl_cons, ih, mem_required_merge, get?_merge, List.find?_cons]
    cases hc : c.properties.get? k with
    | none => simp [KeyMap.contains, hc]
    | some v =>
      simp [KeyMap.contains, hc]

theorem nodup_required_foldl_merge {m : ModelOf ι α} (cs : List (ModelOf ι α))
    (h : m.required.Nodup) : (cs.foldl merge m).required.Nodup :=
  List.foldlRecOn (motive := fun m : ModelOf ι α => m.required.Nodup) _ _ h fun _ h c _ =>
    nodup_required_merge c h

end ModelOf

/-! ### The names of fields -/

namespace FieldDecl

variable (overrides : Overrides)

/-- The name of the property that a field gives.  Skipped and embedded fields and those of unsupported
types give none. -/
def shownAs? (f : FieldDecl) : Option String :=
  if f.hints.skip ∨ Shape.ofType overrides f.type = .unsupported then none
  else f.name.map fun name => f.hints.rename.getD name

/-- The last of some fields that gives a property of the name. -/
def lastShown? (fields : List FieldDecl) (k : String) : Option FieldDecl :=
  (fields.filter fun f => f.shownAs? overrides = some k).getLast?

variable {overrides} {fields : List FieldDecl} {k : String}

theorem lastShown?_concat (fields : List FieldDecl) (f : FieldDecl) (k : String) :
    lastShown? overrides (fields ++ [f]) k =
      if f.shownAs? overrides = some k then some f else lastShown? overrides fields k := by
  unfold lastShown?
  by_cases h : f.shownAs? overrides = some k
  · simp [List.filter_append, h]
  · simp [List.filter_append, h]

theorem mem_of_lastShown? {f : FieldDecl} (h : lastShown? overrides fields k = some f) :
    f ∈ fields ∧ f.shownAs? overrides = some k := by
  simpa using List.mem_filter.mp (List.mem_of_getLast? h)

theorem lastShown?_eq_none_iff :
    lastShown? overrides fields k = none ↔ ∀ f ∈ fields, f.shownAs? overrides ≠ some k := by
  simp [lastShown?]

end FieldDecl

namespace Sketch

variable {overrides : Overrides}

/-! ### Fields -/

@[simp] theorem id_addField (s : Sketch) (f : FieldDecl) : (s.addField overrides f).id = s.id := by
  unfold addField
  split
  · dsimp only
    split <;> simp
  · rfl

theorem partOf?_isSome {f : FieldDecl} :
    (partOf? overrides f).isSome ↔ Shape.ofType overrides f.type ≠ .unsupported := by
  unfold partOf?
  dsimp only
  cases Shape.ofType overrides f.type <;> simp

theorem addField_hidden {f : FieldDecl} (h : f.shownAs? overrides = none) (s : Sketch) :
    s.addField overrides f = s := by
  unfold addField
  split
  · rename_i fieldName part hskip hname hpart
    have hshape := partOf?_isSome.mp (Option.isSome_iff_exists.mpr ⟨part, hpart⟩)
    simp [FieldDecl.shownAs?, hskip, hshape, hname] at h
  · rfl

theorem addField_shown {f : FieldDecl} {k : String} (h : f.shownAs? overrides = some k) (s : Sketch) :
    ∃ p, partOf? overrides f = some p ∧
      (s.addField overrides f).properties = s.properties.insert k p ∧
      (s.addField overrides f).required =
        if f.hints.required then pushNew s.required k else s.required := by
  unfold FieldDecl.shownAs? at h
  split at h
  · cases h
  · rename_i hshown
    obtain ⟨hskip, hshape⟩ := not_or.mp hshown
    obtain ⟨fieldName, hname, rfl⟩ := Option.map_eq_some_iff.mp h
    obtain ⟨p, hp⟩ := Option.isSome_iff_exists.mp (partOf?_isSome.mpr hshape)
    refine ⟨p, hp, ?_⟩
    unfold addField
    rw [Bool.eq_false_iff.mpr hskip, hname, hp]
    by_cases hr : f.hints.required
    · simp [hr, ModelOf.required_markRequired]
    · simp [hr]

theorem id_ofFields (d : Declared) (fields : List FieldDecl) :
    (ofFields overrides d fields).id = d :=
  List.foldlRecOn (motive := fun s : Sketch => s.id = d) _ _ rfl fun s h f _ =>
    (id_addField s f).trans h

theorem ofFields_concat (d : Declared) (fields : List FieldDecl) (f : FieldDecl) :
    ofFields overrides d (fields ++ [f]) = (ofFields overrides d fields).addField overrides f := by
  unfold ofFields
  rw [List.foldl_append, List.foldl_cons, List.foldl_nil]

/-- **Each part of a struct is that of the last field with its name.** -/
theorem get?_ofFields (d : Declared) (fields : List FieldDecl) (k : String) :
    (ofFields overrides d fields).properties.get? k =
      (FieldDecl.lastShown? overrides fields k).bind (partOf? overrides) := by
  induction fields using List.reverseRecOn with
  | nil => rfl
  | append_singleton fields f ih =>
    rw [ofFields_concat, FieldDecl.lastShown?_concat]
    cases hf : f.shownAs? overrides with
    | none => simp [addField_hidden hf, ih]
    | some k' =>
      obtain ⟨p, hp, hproperties, -⟩ := addField_shown hf (ofFields overrides d fields)
      rw [hproperties, KeyMap.get?_insert, ih]
      by_cases hk : k = k'
      · simp [hk, hp]
      · simp [hk, Ne.symm hk]

/-- **A name of a struct is required if any field with it is.** -/
theorem mem_required_ofFields (d : Declared) (fields : List FieldDecl) (k : String) :
    k ∈ (ofFields overrides d fields).required ↔
      ∃ f ∈ fields, f.shownAs? overrides = some k ∧ f.hints.required := by
  induction fields using List.reverseRecOn with
  | nil => simp [ofFields]
  | append_singleton fields f ih =>
    rw [ofFields_concat]
    cases hf : f.shownAs? overrides with
    | none => simp [addField_hidden hf, ih, hf, or_and_right, exists_or]
    | some k' =>
      obtain ⟨p, -, -, hrequired⟩ := addField_shown hf (ofFields overrides d fields)
      rw [hrequired]
      by_cases hr : f.hints.required
      · simp [hr, mem_pushNew, ih, hf, or_and_right, exists_or, eq_comm (a := k)]
      · simp [hr, ih, or_and_right, exists_or]

theorem nodup_required_ofFields (d : Declared) (fields : List FieldDecl) :
    (ofFields overrides d fields).required.Nodup := by
  induction fields using List.reverseRecOn with
  | nil => exact List.nodup_nil
  | append_singleton fields f ih =>
    rw [ofFields_concat]
    cases hf : f.shownAs? overrides with
    | none => rwa [addField_hidden hf]
    | some k =>
      obtain ⟨p, -, -, hrequired⟩ := addField_shown hf (ofFields overrides d fields)
      rw [hrequired]
      split
      · exact nodup_pushNew ih
      · exact ih

theorem part_ofFields {d : Declared} {fields : List FieldDecl} {k : String} {p : Part}
    (h : (ofFields overrides d fields).properties.get? k = some p) :
    ∃ f ∈ fields, partOf? overrides f = some p := by
  rw [get?_ofFields] at h
  obtain ⟨f, hf, hp⟩ := Option.bind_eq_some_iff.mp h
  exact ⟨f, (FieldDecl.mem_of_lastShown? hf).1, hp⟩

/-- The part of a field refers to no model. -/
theorem model?_partOf? {f : FieldDecl} {p : Part} (h : partOf? overrides f = some p) :
    p.content.model? = none := by
  unfold partOf? at h
  dsimp only at h
  split at h
  · rename_i e _
    cases h
    cases e <;> rfl
  · rename_i e _
    cases h
    cases e <;> rfl
  · cases h

/-! ### Type names -/

theorem mem_typeNames {s : Sketch} {typeName : String} :
    typeName ∈ s.typeNames ↔
      ∃ k p, s.properties.get? k = some p ∧ p.content = .pending typeName := by
  unfold typeNames
  rw [KeyMap.mem_keys_ofList, List.map_map]
  have hid : (Prod.fst ∘ fun n : String => (n, ())) = id := rfl
  rw [hid, List.map_id, List.mem_filterMap]
  constructor
  · rintro ⟨p, hp, hn⟩
    obtain ⟨k, hk⟩ := KeyMap.mem_values.mp hp
    refine ⟨k, p, hk, ?_⟩
    unfold Content.pending? at hn
    split at hn
    · rename_i heq
      cases hn
      exact heq
    · cases hn
  · rintro ⟨k, p, hk, hn⟩
    exact ⟨p, KeyMap.mem_values.mpr ⟨k, hk⟩, by rw [hn]; rfl⟩

@[simp] theorem id_settle (s : Sketch) (typeName : String) (c : Content) :
    (s.settle typeName c).id = s.id := rfl

@[simp] theorem required_settle (s : Sketch) (typeName : String) (c : Content) :
    (s.settle typeName c).required = s.required := rfl

@[simp] theorem get?_settle (s : Sketch) (typeName : String) (c : Content) (k : String) :
    (s.settle typeName c).properties.get? k =
      (s.properties.get? k).map (Part.settle typeName c) := KeyMap.get?_map ..

end Sketch

end ApiScribe
