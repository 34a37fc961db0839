import ApiScribe.Files.Write

/-!
# Proper trees of files

The entries of each directory have names, and stand in their order (`Entry.areProper_iff`); an entry
is the one that is found by its name (`Entry.mem_iff_lookup`).  Putting an entry into a tree leaves
it so (`Entry.isProper_put`) and changes nothing elsewhere (`Entry.at?_put_of_apart`), so it is put
wherever no directory stands in the way that cannot be listed (`FileTree.root_put`).
-/

namespace ApiScribe

theorem Path.isName_iff {s : String} :
    Path.isName s ↔ '/' ∉ s.toList ∧ Path.isIdle s = false ∧ s ≠ ".." := by
  simp [Path.isName, and_assoc]

namespace Entry

theorem areProper_cons {name : String} {e : Entry} {es : List (String × Entry)} :
    areProper ((name, e) :: es) ↔
      Path.isName name ∧ (∀ other ∈ es, name < other.1) ∧ e.isProper ∧ areProper es := by
  simp [areProper, and_assoc]

theorem areProper_iff {es : List (String × Entry)} :
    areProper es ↔ (es.Pairwise fun a b => a.1 < b.1) ∧
      ∀ named ∈ es, Path.isName named.1 ∧ named.2.isProper := by
  induction es with
  | nil => simp [areProper]
  | cons named es ih =>
    obtain ⟨name, e⟩ := named
    rw [areProper_cons, ih, List.pairwise_cons, List.forall_mem_cons]
    constructor
    · rintro ⟨hname, hfirst, he, hascending, hes⟩
      exact ⟨⟨hfirst, hascending⟩, ⟨hname, he⟩, hes⟩
    · rintro ⟨⟨hfirst, hascending⟩, ⟨hname, he⟩, hes⟩
      exact ⟨hname, hfirst, he, hascending, hes⟩

theorem mem_iff_lookup {es : List (String × Entry)} (h : areProper es) {name : String} {e : Entry} :
    (name, e) ∈ es ↔ es.lookup name = some e :=
  ⟨KeyMap.lookup_of_mem (areProper_iff.mp h).1, KeyMap.mem_of_lookup⟩

theorem areProper_entries {e : Entry} (h : e.isProper) : areProper e.entries := by
  cases e with
  | dir es => exact h
  | text _ => rfl
  | binary => rfl

theorem of_child? {e child : Entry} (h : e.isProper) {name : String}
    (hchild : e.child? name = some child) : Path.isName name ∧ child.isProper :=
  (areProper_iff.mp (areProper_entries h)).2 (name, child) (KeyMap.mem_of_lookup hchild)

theorem isProper_of_at? {e e' : Entry} (h : e.isProper) {names : List String}
    (hat : e.at? names = some e') : e'.isProper := by
  induction names generalizing e with
  | nil =>
    cases hat
    exact h
  | cons name names ih =>
    obtain ⟨child, hchild, hrest⟩ := Option.bind_eq_some_iff.mp hat
    exact ih (of_child? h hchild).2 hrest

theorem isName_of_at? {e e' : Entry} (h : e.isProper) {names : List String}
    (hat : e.at? names = some e') : ∀ name ∈ names, Path.isName name := by
  induction names generalizing e with
  | nil => exact fun name hname => nomatch hname
  | cons name names ih =>
    obtain ⟨child, hchild, hrest⟩ := Option.bind_eq_some_iff.mp hat
    obtain ⟨hname, hproper⟩ := of_child? h hchild
    exact List.forall_mem_cons.mpr ⟨hname, ih hproper hrest⟩

/-! ### Putting entries -/

theorem areProper_place {name : String} {e : Entry} {es : List (String × Entry)}
    (hname : Path.isName name) (he : e.isProper) (hes : areProper es) :
    areProper (KeyMap.place name e es) := by
  obtain ⟨hascending, hbelow⟩ := areProper_iff.mp hes
  refine areProper_iff.mpr ⟨KeyMap.pairwise_place hascending, fun named hnamed => ?_⟩
  rcases KeyMap.mem_place hnamed with rfl | hnamed
  · exact ⟨hname, he⟩
  · exact hbelow named hnamed

/-- **Putting an entry into a proper one leaves it proper.** -/
theorem isProper_put {new : Entry} (hnew : new.isProper) {place : List String}
    (hplace : ∀ name ∈ place, Path.isName name) {e : Entry} (h : e.isProper) :
    (put new place e).isProper := by
  induction place generalizing e with
  | nil => exact hnew
  | cons name names ih =>
    obtain ⟨hname, hnames⟩ := List.forall_mem_cons.mp hplace
    have hchild : ((e.child? name).getD (dir [])).isProper := by
      cases hlookup : e.child? name with
      | none => rfl
      | some child => exact (of_child? h hlookup).2
    exact areProper_place hname (ih hnames hchild) (areProper_entries h)

theorem child?_put (new : Entry) (name other : String) (names : List String) (e : Entry) :
    (put new (name :: names) e).child? other =
      if other = name then some (put new names ((e.child? name).getD (dir [])))
      else e.child? other := KeyMap.lookup_place

/-- **What stands neither above nor below the place stays as it is.** -/
theorem at?_put_of_apart {new : Entry} {place other : List String} (habove : ¬other <+: place)
    (hbelow : ¬place <+: other) (e : Entry) : (put new place e).at? other = e.at? other := by
  induction place generalizing other e with
  | nil => exact absurd List.nil_prefix hbelow
  | cons name names ih =>
    cases other with
    | nil => exact absurd List.nil_prefix habove
    | cons name' names' =>
      rw [at?, at?, child?_put]
      split
      · rename_i hname
        subst hname
        rw [List.prefix_cons_inj] at habove hbelow
        rw [Option.bind_some, ih habove hbelow]
        cases e.child? name' with
        | some child => rfl
        | none =>
          cases names' with
          | nil => exact absurd List.nil_prefix habove
          | cons _ _ => rfl
      · rfl

end Entry

namespace FileTree

variable {t : FileTree} {place : List String}

theorem isProper_root (t : FileTree) : t.root.isProper := (Bool.and_eq_true_iff.mp t.proper).1

theorem isProper_of_at? {e : Entry} (h : t.root.at? place = some e) : e.isProper :=
  Entry.isProper_of_at? t.isProper_root h

/-- A directory that cannot be listed is one without entries. -/
theorem at?_of_fault? {cause : IOCause} (h : t.fault? place = some cause) :
    t.root.at? place = some (.dir []) := by
  obtain ⟨before, after, hsplit, -⟩ := List.lookup_eq_some_iff.mp h
  have hbare := List.all_eq_true.mp (Bool.and_eq_true_iff.mp t.proper).2 (place, cause)
    (by rw [hsplit]; simp)
  unfold Entry.isBareAt at hbare
  split at hbare
  · assumption
  · cases hbare

theorem fault?_of_isOpen (h : t.isOpen) (place : List String) : t.fault? place = none := by
  rw [fault?, List.isEmpty_iff.mp h, List.lookup_nil]

/-- An entry is put at a place, unless a directory is in the way that cannot be listed. -/
theorem root_put (hplace : ∀ name ∈ place, Path.isName name) {e : Entry} (he : e.isProper)
    (hapart : ∀ named ∈ t.unlisted, ¬named.1 <+: place ∧ ¬place <+: named.1) :
    (t.put place e).root = Entry.put e place t.root := by
  have hproper : (Entry.put e place t.root).isProper &&
      t.unlisted.all fun named => (Entry.put e place t.root).isBareAt named.1 := by
    refine Bool.and_eq_true_iff.mpr ⟨Entry.isProper_put he hplace t.isProper_root,
      List.all_eq_true.mpr fun named hnamed => ?_⟩
    have hbare := List.all_eq_true.mp (Bool.and_eq_true_iff.mp t.proper).2 named hnamed
    unfold Entry.isBareAt at hbare ⊢
    rwa [Entry.at?_put_of_apart (hapart named hnamed).1 (hapart named hnamed).2]
  unfold put
  rw [dif_pos hproper]

end FileTree

end ApiScribe
