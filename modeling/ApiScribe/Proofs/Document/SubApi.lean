import ApiScribe.Proofs.Document.Listing
import ApiScribe.Proofs.Operation.Grammar
import Mathlib.Data.Option.Basic

/-!
# Labels of resources

A line `@SubApi label [path]` describes a listed resource.  It is read by a pattern: the tag, blanks,
characters other than an opening bracket, and the path in brackets (`SubApi.Matches`).  A line can
match in more than one way, as blanks may go to the label or stand before it; every way says the same
of the same path (`read?_of_matches`).

* `SubApi.IsLabelled` — what the pattern is meant for: the label is not blank;
* `SubApi.IsUnlabelled` — what it lets through besides: of two blanks before the bracket one is taken
  for the label, and the description becomes empty;
* `Redescribed` — what becomes of the listing;
* `applySubApi_grammar` — the lines that are accepted, and what they do to a document.
-/

namespace ApiScribe

namespace SubApi

/-! ### The pattern -/

/-- The tag, anything up to the first bracket, and the path in brackets. -/
structure Framed (cs between path rest : List Char) : Prop where
  eq : cs = "@SubApi".toList ++ (between ++ '[' :: (path ++ ']' :: rest))
  unopened : '[' ∉ between
  path_ne : path ≠ []
  pathChar : ∀ c ∈ path, isPathChar c

/-- A way in which a line matches the pattern: blanks and the label stand between the tag and the
bracket. -/
structure Matches (cs blanks label path rest : List Char) : Prop extends
    Framed cs (blanks ++ label) path rest where
  blanks_ne : blanks ≠ []
  blank : ∀ c ∈ blanks, Text.isBlank c
  label_ne : label ≠ []

/-- The resource that a label and a bracketed path describe. -/
def ofParts (label path : List Char) : SubApi where
  description := String.ofList (Text.trim label)
  path := String.ofList ('/' :: path.dropWhile (· == '/'))

variable {cs between path rest between' path' rest' : List Char}

theorem dropWord_eq_some_iff {w cs rest : List Char} : dropWord w cs = some rest ↔ cs = w ++ rest := by
  induction w generalizing cs with
  | nil => simp [dropWord, eq_comm]
  | cons c w ih =>
    cases cs with
    | nil => simp [dropWord]
    | cons d cs =>
      unfold dropWord
      by_cases h : c = d
      · simp [h, ih]
      · simp [h, Ne.symm h]

theorem takeWhile_path (h : ∀ c ∈ path, isPathChar c) (rest : List Char) :
    (path ++ ']' :: rest).takeWhile isPathChar = path := by
  rw [List.takeWhile_append_of_pos h, List.takeWhile_cons_of_neg (by decide), List.append_nil]

theorem dropWhile_path (h : ∀ c ∈ path, isPathChar c) (rest : List Char) :
    (path ++ ']' :: rest).dropWhile isPathChar = ']' :: rest := by
  rw [List.dropWhile_append_of_pos h, List.dropWhile_cons_of_neg (by decide)]

theorem Framed.cutFirst (h : Framed cs between path rest) :
    (dropWord "@SubApi".toList cs).bind (Text.cutFirst (· == '[')) =
      some (between, path ++ ']' :: rest) := by
  rw [dropWord_eq_some_iff.mpr h.eq, Option.bind_some, Text.cutFirst_eq_some_iff]
  refine ⟨'[', rfl, rfl, fun c hc => ?_⟩
  simpa using fun heq : c = '[' => h.unopened (heq ▸ hc)

theorem Framed.unique (h : Framed cs between path rest) (h' : Framed cs between' path' rest') :
    between = between' ∧ path = path' := by
  obtain ⟨rfl, hbracket⟩ := Prod.mk.inj (Option.some.inj (h.cutFirst.symm.trans h'.cutFirst))
  have hpath := congrArg (List.takeWhile isPathChar) hbracket
  rw [takeWhile_path h.pathChar, takeWhile_path h'.pathChar] at hpath
  exact ⟨rfl, hpath⟩

theorem framed_of_cut {tail bracket : List Char} (htail : dropWord "@SubApi".toList cs = some tail)
    (hcut : Text.cutFirst (· == '[') tail = some (between, bracket))
    (hne : bracket.takeWhile isPathChar ≠ [])
    (hclosed : (bracket.dropWhile isPathChar).head? = some ']') :
    ∃ rest, Framed cs between (bracket.takeWhile isPathChar) rest := by
  obtain ⟨rest, hrest⟩ := List.head?_eq_some_iff.mp hclosed
  obtain ⟨c, hc, rfl, hunopened⟩ := Text.cutFirst_eq_some_iff.mp hcut
  obtain rfl : c = '[' := by simpa using hc
  refine ⟨rest, ?_, fun hmem => ?_, hne, fun c hc => List.mem_takeWhile_imp hc⟩
  · rw [← hrest, List.takeWhile_append_dropWhile]
    exact dropWord_eq_some_iff.mp htail
  · simpa using hunopened '[' hmem

theorem readTrimmed?_eq_some_iff {s : SubApi} : readTrimmed? cs = some s ↔
    ∃ between path rest, Framed cs between path rest ∧ (∃ c ∈ between.head?, Text.isBlank c) ∧
      2 ≤ between.length ∧ s = ofParts between path := by
  unfold readTrimmed?
  simp only [Option.bind_eq_bind, Option.bind_eq_some_iff, Option.guard_eq_some', Bool.and_eq_true,
    decide_eq_true_eq, beq_iff_eq]
  constructor
  · rintro ⟨tail, htail, ⟨between, bracket⟩, hcut, c, hc, -, ⟨hblank, hlength⟩, -, ⟨hne, hclosed⟩, hs⟩
    obtain ⟨rest, hframed⟩ := framed_of_cut htail hcut (by simpa using hne) hclosed
    exact ⟨between, _, rest, hframed, ⟨c, hc, hblank⟩, hlength, (Option.some.inj hs).symm⟩
  · rintro ⟨between, path, rest, hframed, ⟨c, hc, hblank⟩, hlength, rfl⟩
    obtain ⟨tail, htail, hcut⟩ := Option.bind_eq_some_iff.mp hframed.cutFirst
    refine ⟨tail, htail, (between, path ++ ']' :: rest), hcut, c, hc, (), ⟨hblank, hlength⟩, (), ?_, ?_⟩
    · rw [takeWhile_path hframed.pathChar, dropWhile_path hframed.pathChar]
      exact ⟨by simpa using hframed.path_ne, rfl⟩
    · dsimp only
      rw [takeWhile_path hframed.pathChar]
      rfl

/-! ### Lines -/

variable {line : String} {blanks label : List Char}

/-- What is told by a line does not depend on the way in which it matches. -/
theorem read?_of_matches (h : Matches (Line.text line) blanks label path rest) :
    read? line = some (ofParts label path) := by
  obtain ⟨b, bs, rfl⟩ := List.exists_cons_of_ne_nil h.blanks_ne
  obtain ⟨c, cs, rfl⟩ := List.exists_cons_of_ne_nil h.label_ne
  have hlength : 2 ≤ (b :: bs ++ c :: cs).length := by simp; omega
  refine readTrimmed?_eq_some_iff.mpr
    ⟨_, path, rest, h.toFramed, ⟨b, rfl, h.blank b List.mem_cons_self⟩, hlength, ?_⟩
  have htrim : Text.trim (b :: bs ++ c :: cs) = Text.trim (c :: cs) := by
    unfold Text.trim Text.strip
    rw [List.dropWhile_append_of_pos h.blank]
  unfold ofParts
  rw [htrim]

theorem exists_matches_of_read? {s : SubApi} (h : read? line = some s) :
    ∃ blanks label path rest, Matches (Line.text line) blanks label path rest := by
  obtain ⟨between, path, rest, hframed, ⟨b, hb, hblank⟩, hlength, -⟩ := readTrimmed?_eq_some_iff.mp h
  obtain ⟨label, rfl⟩ := List.head?_eq_some_iff.mp hb
  refine ⟨[b], label, path, rest, ⟨hframed, List.cons_ne_nil b [], by simpa using hblank, ?_⟩⟩
  rintro rfl
  simp at hlength

/-- The line is a label, which is not blank, and a path in brackets. -/
def IsLabelled (line : String) : Prop :=
  ∃ blanks label path rest, Matches (Line.text line) blanks label path rest ∧
    ∃ c ∈ label, Text.isBlank c = false

/-- The line is a path in brackets, and two blanks or more are all that stands before it. -/
def IsUnlabelled (line : String) : Prop :=
  ∃ blanks path rest, Framed (Line.text line) blanks path rest ∧ (∀ c ∈ blanks, Text.isBlank c) ∧
    2 ≤ blanks.length

/-- **The lines that match have a label, or blanks that pass for one.** -/
theorem matches_iff : (∃ blanks label path rest, Matches (Line.text line) blanks label path rest) ↔
    IsLabelled line ∨ IsUnlabelled line := by
  constructor
  · rintro ⟨blanks, label, path, rest, h⟩
    by_cases hlabel : ∃ c ∈ label, Text.isBlank c = false
    · exact Or.inl ⟨blanks, label, path, rest, h, hlabel⟩
    · have hblank : ∀ c ∈ label, Text.isBlank c := by simpa using hlabel
      have hblanks := List.length_pos_iff.mpr h.blanks_ne
      have hlength := List.length_pos_iff.mpr h.label_ne
      refine Or.inr ⟨blanks ++ label, path, rest, h.toFramed, ?_, ?_⟩
      · exact List.forall_mem_append.mpr ⟨h.blank, hblank⟩
      · rw [List.length_append]
        omega
  · rintro (⟨blanks, label, path, rest, h, -⟩ | ⟨blanks, path, rest, hframed, hblank, hlength⟩)
    · exact ⟨blanks, label, path, rest, h⟩
    · obtain ⟨b, label, rfl⟩ := List.exists_cons_of_length_pos (by omega : 0 < blanks.length)
      refine ⟨[b], label, path, rest, ⟨hframed, List.cons_ne_nil b [], ?_, ?_⟩⟩
      · simpa using hblank b List.mem_cons_self
      · rintro rfl
        simp at hlength

theorem IsUnlabelled.not_isLabelled (h : IsUnlabelled line) : ¬ IsLabelled line := by
  obtain ⟨between, _, _, hframed, hblank, -⟩ := h
  rintro ⟨blanks, label, _, _, h', c, hc, hfalse⟩
  obtain ⟨rfl, -⟩ := hframed.unique h'.toFramed
  have htrue := hblank c (List.mem_append_right blanks hc)
  rw [hfalse] at htrue
  cases htrue

end SubApi

/-! ### Documents -/

/-- The listing after a resource has been described: its first entry with the path has the
description, or there was none and it comes last. -/
inductive Redescribed (s : SubApi) : List ApiRef → List ApiRef → Prop
  | listed {before after : List ApiRef} {old : ApiRef} (hold : old.path = s.path)
      (hnew : s.path ∉ before.map (·.path)) :
      Redescribed s (before ++ old :: after)
        (before ++ { path := s.path, description := s.description } :: after)
  | appended {refs : List ApiRef} (hnew : s.path ∉ refs.map (·.path)) :
      Redescribed s refs (refs ++ [{ path := s.path, description := s.description }])

theorem redescribed_redescribe (s : SubApi) (refs : List ApiRef) :
    Redescribed s refs (ResourceListing.redescribe s refs) := by
  induction refs with
  | nil => exact @Redescribed.appended s [] List.not_mem_nil
  | cons ref refs ih =>
    have hcons : ref.path ≠ s.path → ∀ {rs : List ApiRef}, s.path ∉ rs.map (·.path) →
        s.path ∉ (ref :: rs).map (·.path) := fun hne _ hnew => by simpa [Ne.symm hne] using hnew
    unfold ResourceListing.redescribe
    generalize ResourceListing.redescribe s refs = refs' at ih
    split
    · rename_i heq
      rw [heq]
      exact @Redescribed.listed s [] refs ref heq List.not_mem_nil
    · rename_i hne
      cases ih with
      | @listed before after old hold hnew =>
        exact @Redescribed.listed s (ref :: before) after old hold (hcons hne hnew)
      | appended hnew => exact .appended (hcons hne hnew)

theorem Redescribed.filter_path {s : SubApi} {refs refs' : List ApiRef} (h : Redescribed s refs refs')
    (hpaths : (refs.map (·.path)).Nodup) :
    refs'.filter (·.path = s.path) = [{ path := s.path, description := s.description }] := by
  have hnone : ∀ {rs : List ApiRef}, s.path ∉ rs.map (·.path) → rs.filter (·.path = s.path) = [] := by
    intro rs hnew
    refine List.filter_eq_nil_iff.mpr fun ref href => ?_
    simpa using fun heq => hnew (List.mem_map.mpr ⟨ref, href, heq⟩)
  cases h with
  | appended hnew => simp [hnone hnew]
  | @listed before after old hold hnew =>
    rw [List.map_append, List.map_cons, hold] at hpaths
    have hafter := (List.nodup_cons.mp (List.nodup_append.mp hpaths).2.1).1
    simp [hnone hnew, hnone hafter]

/-- **A label is added by the lines that say one, and by some that do not.**  A line is accepted if
it has a label and a path in brackets; besides, two blanks are accepted in place of a label.  In
either case the description of the path becomes the label, as it is in any way of matching, and
nothing else changes; the path is then listed once, as paths are distinct in all documents that edits
make (`consistent_ofEdits`).  A line that is refused leaves the document as it is. -/
theorem Document.applySubApi_grammar (doc : Document) (line : String) :
    ((∃ doc', doc.applySubApi line = .ok doc') ↔
      SubApi.IsLabelled line ∨ SubApi.IsUnlabelled line) ∧
    (SubApi.IsUnlabelled line → ¬ SubApi.IsLabelled line) ∧
    (∀ blanks label path rest, SubApi.Matches (Line.text line) blanks label path rest →
      ∃ refs, doc.applySubApi line = .ok { doc with listing.apis := refs } ∧
        Redescribed (SubApi.ofParts label path) doc.listing.apis refs ∧
        ((doc.listing.apis.map (·.path)).Nodup →
          refs.filter (·.path = (SubApi.ofParts label path).path) =
            [{ path := (SubApi.ofParts label path).path
               description := String.ofList (Text.trim label) }])) ∧
    (∀ e, doc.applySubApi line = .error e →
      e = .malformedDirective (Text.trimmed line) "expected a label and a [path]" ∧
        doc.edit (.subApi line) = doc) := by
  refine ⟨?_, SubApi.IsUnlabelled.not_isLabelled, ?_, ?_⟩
  · rw [← SubApi.matches_iff]
    unfold applySubApi
    constructor
    · rintro ⟨doc', h⟩
      cases hread : SubApi.read? line with
      | none => rw [hread] at h; cases h
      | some s => exact SubApi.exists_matches_of_read? hread
    · rintro ⟨blanks, label, path, rest, h⟩
      rw [SubApi.read?_of_matches h]
      exact ⟨_, rfl⟩
  · intro blanks label path rest h
    have hlisting := redescribed_redescribe (SubApi.ofParts label path) doc.listing.apis
    refine ⟨_, ?_, hlisting, hlisting.filter_path⟩
    unfold applySubApi
    rw [SubApi.read?_of_matches h]
    rfl
  · intro e h
    unfold applySubApi at h
    cases hread : SubApi.read? line with
    | some s => rw [hread] at h; cases h
    | none =>
      rw [hread] at h
      cases h
      exact ⟨rfl, edit_subApi_none hread⟩

namespace Document

/-- The path is written with slashes in front, and something follows it. -/
def orderLine : String := "@SubApi  Order desk [//orders] of the shop"

theorem matches_orderLine : SubApi.Matches (Line.text orderLine) [' ', ' '] "Order desk ".toList
    "//orders".toList " of the shop".toList where
  eq := by decide +kernel
  unopened := by decide +kernel
  path_ne := by decide
  pathChar := List.all_eq_true.mp (by decide +kernel)
  blanks_ne := by decide
  blank := List.all_eq_true.mp (by decide)
  label_ne := by decide

/-- The path in brackets, and only blanks before it. -/
def bareLine : String := "@SubApi  [orders]"

theorem isUnlabelled_bareLine : SubApi.IsUnlabelled bareLine :=
  ⟨[' ', ' '], "orders".toList, [],
    ⟨by decide +kernel, by decide, by decide, List.all_eq_true.mp (by decide +kernel)⟩,
    List.all_eq_true.mp (by decide), by decide⟩

theorem applySubApi_grammar_orders :
    SubApi.Matches (Line.text orderLine) [' ', ' '] "Order desk ".toList "//orders".toList
        " of the shop".toList ∧
      ((start "").listing.apis.map (·.path)).Nodup ∧
      (∃ refs, (start "").applySubApi orderLine =
          .ok { start "" with listing.apis := refs } ∧
        refs.filter (·.path = "/orders") = [{ path := "/orders", description := "Order desk" }]) ∧
      SubApi.IsUnlabelled bareLine ∧ ¬ SubApi.IsLabelled bareLine := by
  have hpaths : ((start "").listing.apis.map (·.path)).Nodup := List.nodup_nil
  obtain ⟨refs, hok, -, hlisted⟩ :=
    (applySubApi_grammar (start "") orderLine).2.2.1 _ _ _ _ matches_orderLine
  have hparts : (SubApi.ofParts "Order desk ".toList "//orders".toList).path = "/orders" ∧
      String.ofList (Text.trim "Order desk ".toList) = "Order desk" := by
    decide +kernel
  have hlisted := hlisted hpaths
  rw [hparts.1, hparts.2] at hlisted
  exact ⟨matches_orderLine, hpaths, ⟨refs, hok, hlisted⟩, isUnlabelled_bareLine,
    (applySubApi_grammar (start "") bareLine).2.1 isUnlabelled_bareLine⟩

/-- Two blanks are accepted in place of a label, and one is not. -/
theorem applySubApi_unlabelled :
    ¬ (∀ line, (∃ doc', (start "").applySubApi line = .ok doc') ↔ SubApi.IsLabelled line) ∧
      (start "").applySubApi "@SubApi [orders]" =
        .error (.malformedDirective "@SubApi [orders]" "expected a label and a [path]") := by
  refine ⟨fun h => ?_, by decide +kernel⟩
  have hok : ∃ doc', (start "").applySubApi bareLine = .ok doc' :=
    ⟨(start "").describe { path := "/orders", description := "" }, by decide +kernel⟩
  exact isUnlabelled_bareLine.not_isLabelled ((h bareLine).mp hok)

end Document

end ApiScribe
