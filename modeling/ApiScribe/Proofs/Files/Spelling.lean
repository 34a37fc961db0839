import ApiScribe.Files.Tree

/-!
# Spellings of a path

Paths that differ only in pieces that do not count lead to the same directory (`find_normal_iff`),
and so does what is appended to them (`find_join_congr`).  So one key, `Path.normal`, stands for all
spellings of the path of a directory.
-/

namespace ApiScribe

/-! ### Pieces and segments -/

namespace Path

theorem pieces_eq (p : String) : pieces p = (p.toList.splitOn '/').map String.ofList :=
  Text.splitOn_eq '/' p

theorem pieces_append_slash (p q : String) : pieces (p ++ "/" ++ q) = pieces p ++ pieces q := by
  have h : (p ++ "/" ++ q).toList = p.toList ++ '/' :: q.toList := by simp
  rw [pieces_eq, pieces_eq, pieces_eq, h, List.splitOn_append_cons_self, List.map_append]

theorem slash_not_mem {p s : String} (h : s ∈ pieces p) : '/' ∉ s.toList := by
  obtain ⟨l, hl, rfl⟩ := List.mem_map.mp h
  rw [String.toList_ofList]
  intro hslash
  simpa using Text.not_of_mem_pieces hl '/' hslash

theorem pieces_joined {segs : List String} (h : ∀ s ∈ segs, '/' ∉ s.toList) (hne : segs ≠ []) :
    pieces (joined segs) = segs := by
  have hl : ∀ l ∈ segs.map String.toList, '/' ∉ l := by
    intro l hl
    obtain ⟨s, hs, rfl⟩ := List.mem_map.mp hl
    exact h s hs
  have hne' : segs.map String.toList ≠ [] := by simpa using hne
  unfold joined
  rw [pieces_eq, String.toList_intercalate]
  rw [show "/".toList = ['/'] from rfl, List.splitOn_intercalate '/' hl hne', List.map_map]
  simp [Function.comp_def]

theorem pieces_empty : pieces "" = [""] := rfl

theorem segments_joined {segs : List String} (hslash : ∀ s ∈ segs, '/' ∉ s.toList)
    (hidle : ∀ s ∈ segs, isIdle s = false) : segments (joined segs) = segs := by
  unfold segments
  by_cases hne : segs = []
  · subst hne
    rfl
  · rw [pieces_joined hslash hne]
    refine List.filter_eq_self.mpr fun s hs => ?_
    rw [hidle s hs]
    rfl

theorem mem_segments {p s : String} (h : s ∈ segments p) : '/' ∉ s.toList ∧ isIdle s = false := by
  obtain ⟨hs, hi⟩ := List.mem_filter.mp h
  exact ⟨slash_not_mem hs, by simpa using hi⟩

theorem segments_joined_segments (p : String) : segments (joined (segments p)) = segments p :=
  segments_joined (fun _ hs => (mem_segments hs).1) fun _ hs => (mem_segments hs).2

theorem isIdle_empty : isIdle "" = true := rfl

theorem isIdle_dot : isIdle "." = true := rfl

theorem segments_slash_append (p : String) : segments ("/" ++ p) = segments p := by
  have h := pieces_append_slash "" p
  rw [pieces_empty, String.empty_append] at h
  unfold segments
  rw [h, List.filter_append, List.filter_cons_of_neg (by simp [isIdle_empty]), List.filter_nil,
    List.nil_append]

/-! ### The one spelling -/

theorem segments_dot_joined {segs : List String} (hslash : ∀ s ∈ segs, '/' ∉ s.toList)
    (hidle : ∀ s ∈ segs, isIdle s = false) : segments (joined ("." :: segs)) = segs := by
  have hdot : ∀ s ∈ "." :: segs, '/' ∉ s.toList := by
    intro s hs
    rcases List.mem_cons.mp hs with rfl | hs
    · decide
    · exact hslash s hs
  unfold segments
  rw [pieces_joined hdot (List.cons_ne_nil _ _),
    List.filter_cons_of_neg (by simp [isIdle_dot])]
  refine List.filter_eq_self.mpr fun s hs => ?_
  rw [hidle s hs]
  rfl

theorem segments_normal (p : String) : segments (normal p) = segments p := by
  unfold normal
  split
  · unfold ofSegments
    rw [segments_slash_append, segments_joined_segments]
  · split
    · exact segments_dot_joined (fun _ hs => (mem_segments hs).1) fun _ hs => (mem_segments hs).2
    · exact segments_joined_segments p

theorem head_pieces {p : String} (habs : isAbsolute p = false) (hp : p ≠ "") :
    ∃ s ss, pieces p = s :: ss ∧ s ≠ "" := by
  rw [pieces_eq]
  cases hcs : p.toList with
  | nil => exact absurd (String.toList_eq_nil_iff.mp hcs) hp
  | cons c cs =>
    have hc : c ≠ '/' := by
      rintro rfl
      simp [isAbsolute, hcs] at habs
    rw [List.splitOn_cons_eq_if_modifyHead, if_neg (by simpa using hc)]
    cases hw : cs.splitOn '/' with
    | nil => exact absurd hw (List.splitOn_ne_nil '/' cs)
    | cons w ws => exact ⟨String.ofList (c :: w), ws.map String.ofList, by simp, by simp⟩

/-- A relative path that is not empty and does not start with a dot has a first segment. -/
theorem segments_ne_nil {p : String} (habs : isAbsolute p = false) (hhere : startsHere p = false)
    (hp : p ≠ "") : segments p ≠ [] := by
  obtain ⟨s, ss, hs, hne⟩ := head_pieces habs hp
  have hdot : s ≠ "." := by
    rintro rfl
    simp [startsHere, hs] at hhere
  have hidle : isIdle s = false := by simp [isIdle, hne, hdot]
  unfold segments
  rw [hs, List.filter_cons_of_pos (by simp [hidle])]
  exact List.cons_ne_nil _ _

theorem joined_cons (s : String) (segs : List String) :
    ∃ rest, joined (s :: segs) = s ++ rest := by
  cases segs with
  | nil => exact ⟨"", by simp [joined]⟩
  | cons t ts => exact ⟨"/" ++ joined (t :: ts), by simp [joined, String.append_assoc]⟩

theorem isAbsolute_append {s t : String} (hs : s ≠ "") : isAbsolute (s ++ t) = isAbsolute s := by
  unfold isAbsolute
  rw [String.toList_append]
  cases hcs : s.toList with
  | nil => exact absurd (String.toList_eq_nil_iff.mp hcs) hs
  | cons c cs => rfl

theorem isAbsolute_of_slash_not_mem {s : String} (h : '/' ∉ s.toList) : isAbsolute s = false := by
  unfold isAbsolute
  cases hcs : s.toList with
  | nil => rfl
  | cons c cs =>
    rw [hcs] at h
    simp
    rintro rfl
    exact h List.mem_cons_self

theorem isAbsolute_normal (p : String) :
    isAbsolute (normal p) = isAbsolute p ∧ (normal p = "" ↔ p = "") := by
  unfold normal
  split
  · rename_i habs
    refine ⟨?_, ?_⟩
    · unfold ofSegments
      rw [habs, isAbsolute_append (by decide)]
      rfl
    · refine ⟨fun h => ?_, fun h => ?_⟩
      · simp [ofSegments] at h
      · subst h
        simp [isAbsolute] at habs
  · rename_i habs
    have habs : isAbsolute p = false := by simpa using habs
    split
    · rename_i hhere
      obtain ⟨rest, hrest⟩ := joined_cons "." (segments p)
      rw [hrest, habs]
      refine ⟨by rw [isAbsolute_append (by decide)]; decide, fun h => ?_, fun h => ?_⟩
      · simp at h
      · subst h
        simp [startsHere, pieces_empty] at hhere
    · rename_i hhere
      rw [habs]
      by_cases hp : p = ""
      · subst hp
        decide
      · have hne := segments_ne_nil habs (by simpa using hhere) hp
        cases hs : segments p with
        | nil => exact absurd hs hne
        | cons s ss =>
          have hmem := mem_segments (p := p) (s := s) (hs ▸ List.mem_cons_self)
          have hs0 : s ≠ "" := by
            rintro rfl
            cases hmem.2
          obtain ⟨rest, hrest⟩ := joined_cons s ss
          rw [hrest, isAbsolute_append hs0, isAbsolute_of_slash_not_mem hmem.1]
          exact ⟨rfl, by simp [hs0], fun h => absurd h hp⟩

end Path

/-! ### Following a path -/

namespace FileTree

variable {root : Entry} {place place' : List String} {es : List (String × Entry)}

theorem follow_append (root : Entry) (place : List String) (xs ys : List String) :
    follow root place (xs ++ ys) = follow root place xs >>= fun p => follow root p ys := by
  induction xs generalizing place with
  | nil => rfl
  | cons x xs ih =>
    rw [List.cons_append, follow, follow]
    cases step root place x with
    | error e => rfl
    | ok p => exact ih p

theorem step_idle {x : String} (hx : Path.isIdle x = true) (h : step root place x = .ok place') :
    place' = place := by
  unfold step at h
  split at h
  · cases h
  · rw [hx] at h
    split at h
    · cases h
    · cases h
      rfl

theorem step_idle_of_dir {x : String} (hx : Path.isIdle x = true)
    (h : root.at? place = some (.dir es)) : step root place x = .ok place := by
  simp [step, h, hx, Entry.isFile, Entry.isDir]

theorem isDir_of_step {x : String} (h : step root place x = .ok place') :
    ∃ es, root.at? place = some (.dir es) := by
  unfold step at h
  split at h
  · cases h
  · rename_i e he
    cases e with
    | dir es => exact ⟨es, he⟩
    | text _ => simp [Entry.isFile, Entry.isDir] at h
    | binary => simp [Entry.isFile, Entry.isDir] at h

theorem isDir_of_follow {xs : List String} (h : follow root place xs = .ok place')
    (hdir : root.at? place' = some (.dir es)) : ∃ es, root.at? place = some (.dir es) := by
  cases xs with
  | nil =>
    cases h
    exact ⟨es, hdir⟩
  | cons x xs =>
    rw [follow] at h
    split at h
    · exact isDir_of_step ‹_›
    · cases h

/-- Idle pieces can be left out of a path, and put into one that leads to a directory. -/
theorem follow_filter_iff {xs : List String} (hdir : root.at? place' = some (.dir es)) :
    follow root place (xs.filter fun x => !Path.isIdle x) = .ok place' ↔
      follow root place xs = .ok place' := by
  induction xs generalizing place with
  | nil => rfl
  | cons x xs ih =>
    cases hx : Path.isIdle x with
    | false =>
      rw [List.filter_cons_of_pos (by simp [hx]), follow, follow]
      cases step root place x with
      | error e => simp
      | ok p => exact ih
    | true =>
      rw [List.filter_cons_of_neg (by simp [hx]), ih, follow]
      constructor
      · intro h
        obtain ⟨es', he⟩ := isDir_of_follow h hdir
        rw [step_idle_of_dir hx he]
        exact h
      · intro h
        split at h
        · rename_i p hp
          rw [step_idle hx hp] at h
          exact h
        · cases h

variable {t : FileTree}

theorem find_dir_iff {p : String} :
    t.find p = .ok (place, .dir es) ↔
      p ≠ "" ∧ follow t.root (t.startOf p) (Path.segments p) = .ok place ∧
        t.root.at? place = some (.dir es) := by
  unfold find FileTree.place
  by_cases hp : p = ""
  · subst hp
    simp
  · have hp' : p.isEmpty = false := by simpa using hp
    rw [hp']
    constructor
    · intro h
      split at h
      · cases h
      · rename_i place' hf
        split at h
        · rename_i e he
          cases h
          exact ⟨hp, (follow_filter_iff he).mpr hf, he⟩
        · cases h
    · rintro ⟨-, hf, hdir⟩
      have hf' := (follow_filter_iff hdir).mp hf
      simp only [Bool.false_eq_true, if_false, hf', hdir]

/-- **All spellings of a path lead to the same directory.** -/
theorem find_normal_iff {p : String} :
    t.find (Path.normal p) = .ok (place, .dir es) ↔ t.find p = .ok (place, .dir es) := by
  obtain ⟨habs, hempty⟩ := Path.isAbsolute_normal p
  have hstart : t.startOf (Path.normal p) = t.startOf p := by
    unfold startOf
    rw [habs]
  rw [find_dir_iff, find_dir_iff, Path.segments_normal, hstart]
  constructor
  · rintro ⟨h, hf, hdir⟩
    exact ⟨fun h' => h (hempty.mpr h'), hf, hdir⟩
  · rintro ⟨h, hf, hdir⟩
    exact ⟨fun h' => h (hempty.mp h'), hf, hdir⟩

/-! ### What is appended to a path -/

theorem follow_of_find {p : String} (h : t.find p = .ok (place, .dir es)) :
    follow t.root (t.startOf p) (Path.pieces p) = .ok place := by
  obtain ⟨-, hf, hdir⟩ := find_dir_iff.mp h
  exact (follow_filter_iff hdir).mp hf

/-- What is appended to the path of a directory is looked up from the directory. -/
theorem place_join {p name : String} (h : t.find p = .ok (place, .dir es))
    (hname : Path.isAbsolute name = false) :
    t.place (Path.join p name) = follow t.root place (Path.pieces name) := by
  have hp : p ≠ "" := (find_dir_iff.mp h).1
  have hfollow := follow_of_find h
  have key : ∀ q : String, q ≠ "" → Path.isAbsolute q = Path.isAbsolute p →
      follow t.root (t.startOf p) (Path.pieces q) = follow t.root place (Path.pieces name) →
      t.place q = follow t.root place (Path.pieces name) := by
    intro q hq habs hf
    unfold FileTree.place startOf
    unfold startOf at hf
    rw [if_neg (by simpa using hq), habs, hf]
  unfold Path.join
  rw [if_neg (by simp [hname, hp])]
  split
  · -- the slash at the end of `p` is the one between the two
    rename_i hlast
    obtain ⟨l, hl⟩ := List.getLast?_eq_some_iff.mp hlast
    have hsplit : p = String.ofList l ++ "/" := by
      rw [← String.ofList_toList (s := p), hl]
      simp
    have hpieces : Path.pieces p = Path.pieces (String.ofList l) ++ [""] := by
      have := Path.pieces_append_slash (String.ofList l) ""
      rw [String.append_empty, ← hsplit, Path.pieces_empty] at this
      exact this
    have hplace : follow t.root (t.startOf p) (Path.pieces (String.ofList l)) = .ok place := by
      rw [hpieces, follow_append] at hfollow
      cases hf : follow t.root (t.startOf p) (Path.pieces (String.ofList l)) with
      | error e =>
        rw [hf] at hfollow
        cases hfollow
      | ok p' =>
        rw [hf] at hfollow
        replace hfollow : follow t.root p' [""] = .ok place := hfollow
        rw [follow] at hfollow
        split at hfollow
        · rename_i p'' hstep
          have := step_idle Path.isIdle_empty hstep
          rw [follow] at hfollow
          cases hfollow
          rw [this]
        · cases hfollow
    refine key _ (by simp [hp]) (Path.isAbsolute_append hp) ?_
    rw [hsplit, Path.pieces_append_slash, ← hsplit, follow_append, hplace]
    rfl
  · refine key _ (by simp) (by rw [String.append_assoc, Path.isAbsolute_append hp]) ?_
    rw [Path.pieces_append_slash, follow_append, hfollow]
    rfl

/-- **What is appended to two paths of one directory leads to the same entry.** -/
theorem find_join_congr {p q : String} (name : String) (hp : t.find p = .ok (place, .dir es))
    (hq : t.find q = .ok (place, .dir es)) :
    t.find (Path.join p name) = t.find (Path.join q name) := by
  cases hname : Path.isAbsolute name with
  | true => simp [Path.join, hname]
  | false =>
    unfold find
    rw [place_join hp hname, place_join hq hname]

end FileTree

end ApiScribe
