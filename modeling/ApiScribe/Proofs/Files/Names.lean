import ApiScribe.Package.Scan
import ApiScribe.Proofs.Files.Order
import ApiScribe.Proofs.Files.Spelling
import Mathlib.Data.List.Basic

/-!
# Names in a tree of files

A place is a list of names, and the one name of a directory leads back to it (`find_directory?`).  A scan
lists the places of directories that no name on the way is passed over for (`mem_places`).
-/

namespace ApiScribe

namespace Entry

theorem at?_append (e : Entry) (xs ys : List String) :
    e.at? (xs ++ ys) = (e.at? xs).bind (at? ys) := by
  induction xs generalizing e with
  | nil => rfl
  | cons x xs ih =>
    rw [List.cons_append, at?, at?]
    cases e.child? x with
    | none => rfl
    | some e' => exact ih e'

end Entry

/-! ### Places of directories -/

namespace Entry

mutual

/-- The places of all directories in an entry. -/
def dirPlaces : Entry → List (List String)
  | .dir es => [] :: dirPlacesIn es
  | _ => []

def dirPlacesIn : List (String × Entry) → List (List String)
  | [] => []
  | (name, e) :: es => (dirPlaces e).map (name :: ·) ++ dirPlacesIn es

end

mutual

theorem length_dirPlaces (e : Entry) : e.dirPlaces.length = e.directories := by
  cases e with
  | dir es => rw [dirPlaces, directories, List.length_cons, length_dirPlacesIn es, Nat.add_comm]
  | text _ => rfl
  | binary => rfl

theorem length_dirPlacesIn (es : List (String × Entry)) :
    (dirPlacesIn es).length = directoriesIn es := by
  cases es with
  | nil => rfl
  | cons named es =>
    rw [dirPlacesIn, directoriesIn, List.length_append, List.length_map, length_dirPlaces named.2,
      length_dirPlacesIn es]

end

theorem mem_dirPlaces {e : Entry} {place : List String} {es : List (String × Entry)}
    (h : e.at? place = some (.dir es)) : place ∈ e.dirPlaces := by
  have hbelow : ∀ {es' : List (String × Entry)} {name : String} {names : List String} {e' : Entry},
      es'.lookup name = some e' → names ∈ e'.dirPlaces → name :: names ∈ dirPlacesIn es' := by
    intro es' name names e' hlookup hnames
    induction es' with
    | nil => cases hlookup
    | cons named es' ih =>
      rw [dirPlacesIn, List.mem_append]
      rw [List.lookup_cons] at hlookup
      split at hlookup
      · rename_i hname
        cases hlookup
        exact Or.inl (List.mem_map.mpr ⟨names, hnames, by rw [beq_iff_eq.mp hname]⟩)
      · exact Or.inr (ih hlookup)
  induction place generalizing e with
  | nil =>
    cases h
    exact List.mem_cons_self
  | cons name names ih =>
    obtain ⟨e', hchild, hrest⟩ := Option.bind_eq_some_iff.mp h
    cases e with
    | dir es' => exact List.mem_cons_of_mem _ (hbelow hchild (ih hrest))
    | text _ => cases hchild
    | binary => cases hchild

end Entry

/-! ### Places that a scan lists -/

namespace Package

mutual

theorem places_eq_map (before : List String) (e : Entry) :
    places before e = (places [] e).map (before ++ ·) := by
  cases e with
  | dir es => rw [places, places, List.map_cons, List.append_nil, placesBelow_eq_map before es]
  | text _ => rfl
  | binary => rfl

theorem placesBelow_eq_map (before : List String) (es : List (String × Entry)) :
    placesBelow before es = (placesBelow [] es).map (before ++ ·) := by
  cases es with
  | nil => rfl
  | cons named es =>
    obtain ⟨name, e⟩ := named
    rw [placesBelow, placesBelow, List.map_append, placesBelow_eq_map before es]
    split
    · rfl
    · rw [places_eq_map (before ++ [name]) e, places_eq_map ([] ++ [name]) e, List.map_map]
      simp [Function.comp_def]

end

theorem placesBelow_cons (name : String) (e : Entry) (es : List (String × Entry)) :
    placesBelow [] ((name, e) :: es) =
      (if isSkipped name then [] else (places [] e).map (name :: ·)) ++ placesBelow [] es := by
  rw [placesBelow, places_eq_map ([] ++ [name])]
  rfl

theorem mem_placesBelow {es : List (String × Entry)} {names : List String} :
    names ∈ placesBelow [] es ↔
      ∃ named ∈ es, isSkipped named.1 = false ∧
        ∃ rest ∈ places [] named.2, names = named.1 :: rest := by
  induction es with
  | nil => simp [placesBelow]
  | cons named es ih =>
    obtain ⟨name, e⟩ := named
    rw [placesBelow_cons, List.mem_append, ih, List.exists_mem_cons_iff]
    refine or_congr_left ?_
    cases isSkipped name with
    | true => simp
    | false => simp only [Bool.false_eq_true, if_false, List.mem_map, true_and, eq_comm]

/-- **A place is listed if a directory stands there and no name on the way is passed over.** -/
theorem mem_places {e : Entry} (h : e.isProper) {names : List String} :
    names ∈ places [] e ↔
      (∃ es, e.at? names = some (.dir es)) ∧ ∀ name ∈ names, isSkipped name = false := by
  induction names generalizing e with
  | nil =>
    cases e with
    | dir es => simp [places, Entry.at?]
    | text _ => simp [places, Entry.at?]
    | binary => simp [places, Entry.at?]
  | cons name names ih =>
    cases e with
    | text _ => simp [places, Entry.at?, Entry.child?, Entry.entries]
    | binary => simp [places, Entry.at?, Entry.child?, Entry.entries]
    | dir es =>
      rw [places, List.mem_cons, mem_placesBelow, List.forall_mem_cons]
      constructor
      · rintro (hroot | ⟨⟨name', e⟩, hmem, hname, rest, hrest, heq⟩)
        · cases hroot
        · cases heq
          obtain ⟨⟨es', hat⟩, hnames⟩ := (ih ((Entry.areProper_iff.mp h).2 _ hmem).2).mp hrest
          refine ⟨⟨es', ?_⟩, hname, hnames⟩
          rw [Entry.at?, Entry.child?, Entry.entries, (Entry.mem_iff_lookup h).mp hmem,
            Option.bind_some, hat]
      · rintro ⟨⟨es', hat⟩, hname, hnames⟩
        obtain ⟨e, hchild, hrest⟩ := Option.bind_eq_some_iff.mp hat
        have hmem : (name, e) ∈ es := (Entry.mem_iff_lookup h).mpr hchild
        exact Or.inr ⟨(name, e), hmem, hname, names,
          (ih ((Entry.areProper_iff.mp h).2 _ hmem).2).mpr ⟨⟨es', hrest⟩, hnames⟩, rfl⟩

end Package

namespace FileTree

variable {root e : Entry} {place place' : List String} {es : List (String × Entry)}

/-! ### Following names -/

theorem step_name {name : String} (hname : Path.isName name)
    (h : root.at? (place ++ [name]) = some e) : step root place name = .ok (place ++ [name]) := by
  obtain ⟨-, hidle, hup⟩ := Path.isName_iff.mp hname
  rw [Entry.at?_append] at h
  obtain ⟨parent, hparent, hchild⟩ := Option.bind_eq_some_iff.mp h
  obtain ⟨e', hchild, -⟩ := Option.bind_eq_some_iff.mp
    (show (parent.child? name).bind (Entry.at? []) = some e from hchild)
  have hdir : parent.isFile = false := by
    cases parent with
    | dir es => rfl
    | text _ => cases hchild
    | binary => cases hchild
  unfold step
  rw [hparent]
  simp [hdir, hidle, hup, hchild]

theorem follow_names {names : List String} (hnames : ∀ name ∈ names, Path.isName name)
    (h : root.at? (place ++ names) = some e) : follow root place names = .ok (place ++ names) := by
  induction names generalizing place with
  | nil => simp [follow]
  | cons name names ih =>
    have hsplit : place ++ name :: names = (place ++ [name]) ++ names := by simp
    rw [hsplit] at h ⊢
    have hhere : ∃ e', root.at? (place ++ [name]) = some e' := by
      rw [Entry.at?_append] at h
      obtain ⟨e', he', -⟩ := Option.bind_eq_some_iff.mp h
      exact ⟨e', he'⟩
    obtain ⟨e', he'⟩ := hhere
    rw [follow, step_name (hnames name List.mem_cons_self) he']
    exact ih (fun n hn => hnames n (List.mem_cons_of_mem _ hn)) h

theorem place_of_step_name {name : String} (hname : Path.isName name)
    (h : step root place name = .ok place') : place' = place ++ [name] := by
  obtain ⟨-, hidle, hup⟩ := Path.isName_iff.mp hname
  unfold step at h
  split at h
  · cases h
  · rw [hidle, if_neg hup] at h
    split at h
    · cases h
    · rw [if_neg Bool.false_ne_true] at h
      split at h
      · cases h
        rfl
      · cases h

/-- Names lead nowhere else than below the place from which they are followed. -/
theorem place_of_follow_names {names : List String} (hnames : ∀ name ∈ names, Path.isName name)
    (h : follow root place names = .ok place') : place' = place ++ names := by
  induction names generalizing place with
  | nil =>
    cases h
    simp
  | cons name names ih =>
    rw [follow] at h
    split at h
    · rename_i hstep
      have hrest := ih (fun n hn => hnames n (List.mem_cons_of_mem _ hn)) h
      rw [hrest, place_of_step_name (hnames name List.mem_cons_self) hstep]
      simp
    · cases h

variable {t : FileTree}

theorem isName_of_find {p : String} (hfind : t.find p = .ok (place, .dir es)) :
    ∀ name ∈ place, Path.isName name :=
  Entry.isName_of_at? t.isProper_root (find_dir_iff.mp hfind).2.2

theorem segments_ofSegments (hplace : ∀ name ∈ place, Path.isName name) :
    Path.segments (Path.ofSegments place) = place := by
  unfold Path.ofSegments
  rw [Path.segments_slash_append, Path.segments_joined]
  · exact fun s hs => (Path.isName_iff.mp (hplace s hs)).1
  · exact fun s hs => (Path.isName_iff.mp (hplace s hs)).2.1

theorem isAbsolute_ofSegments (place : List String) : Path.isAbsolute (Path.ofSegments place) := by
  simp [Path.isAbsolute, Path.ofSegments]

theorem normal_ofSegments (hplace : ∀ name ∈ place, Path.isName name) :
    Path.normal (Path.ofSegments place) = Path.ofSegments place := by
  unfold Path.normal
  rw [if_pos (isAbsolute_ofSegments place), segments_ofSegments hplace]

theorem find_ofSegments (hplace : ∀ name ∈ place, Path.isName name)
    (h : t.root.at? place = some (.dir es)) :
    t.find (Path.ofSegments place) = .ok (place, .dir es) := by
  refine find_dir_iff.mpr ⟨by simp [Path.ofSegments], ?_, h⟩
  rw [segments_ofSegments hplace, startOf, if_pos (isAbsolute_ofSegments place)]
  exact follow_names hplace h

theorem directory?_eq_some {p d : String} :
    t.directory? p = some d ↔
      ∃ place es, t.find p = .ok (place, .dir es) ∧ d = Path.ofSegments place := by
  unfold directory?
  constructor
  · intro h
    split at h
    · rename_i place e hfind
      cases e with
      | dir es =>
        cases h
        exact ⟨place, es, hfind, rfl⟩
      | text _ => cases h
      | binary => cases h
    · cases h
  · rintro ⟨place, es, hfind, rfl⟩
    rw [hfind]
    rfl

/-- The directory that a path leads to is called `location`, the path from the root that leads there
by names only. -/
def IsCalled (t : FileTree) (path location : String) : Prop :=
  ∃ place es, t.find path = .ok (place, .dir es) ∧ t.find location = .ok (place, .dir es) ∧
    location = Path.ofSegments place ∧ ∀ name ∈ place, Path.isName name

theorem isCalled_iff {p d : String} : t.IsCalled p d ↔ t.directory? p = some d := by
  constructor
  · rintro ⟨place, es, hfind, -, hd, -⟩
    exact directory?_eq_some.mpr ⟨place, es, hfind, hd⟩
  · intro hd
    obtain ⟨place, es, hfind, rfl⟩ := directory?_eq_some.mp hd
    have hnames := isName_of_find hfind
    exact ⟨place, es, hfind, find_ofSegments hnames (find_dir_iff.mp hfind).2.2, rfl, hnames⟩

/-- **The one name of a directory leads to it.** -/
theorem find_directory? {p d : String} (hd : t.directory? p = some d) :
    ∃ place es, t.find p = .ok (place, .dir es) ∧ t.find d = .ok (place, .dir es) := by
  obtain ⟨place, es, hfind, hfind', -, -⟩ := isCalled_iff.mpr hd
  exact ⟨place, es, hfind, hfind'⟩

end FileTree

end ApiScribe
