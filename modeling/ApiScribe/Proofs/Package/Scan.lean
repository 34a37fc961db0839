import ApiScribe.Proofs.Package.Discovery
import Mathlib.Data.List.Nodup

/-!
# What a scan lists

The walk below a directory passes over entries one by one; what comes out is said of whole places:

* `Precedes` — the order of a walk: each directory before those below it, siblings by their names;
* `scan_lists` — the package itself and the packages at the places of directories below it are listed,
  once each and in the order of the walk, with a warning for each that cannot be listed.
-/

namespace ApiScribe.Package

/-- One place comes before another in a walk: the other is below it, or the ways part at siblings,
and the name on the way to the one comes first. -/
inductive Precedes : List String → List String → Prop
  | below (place : List String) (name : String) (names : List String) :
    Precedes place (place ++ name :: names)
  | beside (place : List String) {name name' : String} (h : name < name')
      (names names' : List String) :
    Precedes (place ++ name :: names) (place ++ name' :: names')

theorem Precedes.cons {p q : List String} (h : Precedes p q) (name : String) :
    Precedes (name :: p) (name :: q) := by
  cases h with
  | below => exact .below (name :: p) _ _
  | beside place h names names' => exact .beside (name :: place) h names names'

theorem Precedes.ne {p q : List String} (h : Precedes p q) : p ≠ q := by
  intro heq
  cases h with
  | below name names => simp at heq
  | beside place h names names' =>
    obtain ⟨-, hrest⟩ := List.append_inj heq rfl
    exact String.lt_irrefl _ ((List.cons.inj hrest).1 ▸ h)

/-! ### The order of a walk -/

mutual

/-- **A walk comes to a directory before it comes to those below it, and to siblings in the order of
their names.** -/
theorem pairwise_places {e : Entry} (h : e.isProper) : (places [] e).Pairwise Precedes := by
  cases e with
  | dir es =>
    rw [places, List.pairwise_cons]
    refine ⟨fun names hnames => ?_, pairwise_placesBelow h⟩
    obtain ⟨named, -, -, rest, -, rfl⟩ := mem_placesBelow.mp hnames
    exact .below [] named.1 rest
  | text _ => exact List.Pairwise.nil
  | binary => exact List.Pairwise.nil

theorem pairwise_placesBelow {es : List (String × Entry)} (h : Entry.areProper es) :
    (placesBelow [] es).Pairwise Precedes := by
  cases es with
  | nil => exact List.Pairwise.nil
  | cons named es =>
    obtain ⟨name, e⟩ := named
    obtain ⟨-, hfirst, he, hes⟩ := Entry.areProper_cons.mp h
    rw [placesBelow_cons, List.pairwise_append]
    refine ⟨?_, pairwise_placesBelow hes, ?_⟩
    · split
      · exact List.Pairwise.nil
      · exact List.pairwise_map.mpr ((pairwise_places he).imp fun h => h.cons name)
    · intro names hnames names' hnames'
      split at hnames
      · cases hnames
      · obtain ⟨rest, -, rfl⟩ := List.mem_map.mp hnames
        obtain ⟨named, hnamed, -, rest', -, rfl⟩ := mem_placesBelow.mp hnames'
        exact .beside [] (hfirst named hnamed) rest rest'

end

/-! ### The ids of a scan -/

theorem mem_placesBelow_iff {es : List (String × Entry)} {names : List String} :
    names ∈ placesBelow [] es ↔ names ≠ [] ∧ names ∈ places [] (.dir es) := by
  rw [places, List.mem_cons]
  constructor
  · intro hmem
    obtain ⟨named, -, -, rest, -, rfl⟩ := mem_placesBelow.mp hmem
    exact ⟨List.cons_ne_nil _ _, Or.inr hmem⟩
  · exact fun h => h.2.resolve_left h.1

theorem map_idBelow (id : String) (es : List (String × Entry)) :
    (places [] (.dir es)).map (idBelow id) = id :: (placesBelow [] es).map fun names =>
      String.ofList (Text.dropEnd (· == '/') id.toList) ++ "/" ++ "/".intercalate names := by
  rw [places, List.map_cons]
  refine congrArg (id :: ·) (List.map_congr_left fun names hmem => ?_)
  cases names with
  | nil => exact absurd rfl (mem_placesBelow_iff.mp hmem).1
  | cons name names => rfl

/-- Different places below a package have different ids. -/
theorem idBelow_injective {id : String} {names names' : List String}
    (h : ∀ name ∈ names, Path.isName name) (h' : ∀ name ∈ names', Path.isName name)
    (heq : idBelow id names = idBelow id names') : names = names' := by
  have hsegments := congrArg Path.segments heq
  rw [Workspace.segments_idBelow id h, Workspace.segments_idBelow id h'] at hsegments
  exact List.append_cancel_left hsegments

theorem getLast?_dropEnd (p : Char → Bool) (cs : List Char) :
    ∀ c ∈ (Text.dropEnd p cs).getLast?, p c = false := by
  intro c hc
  have hhead := List.head?_dropWhile_not p cs.reverse
  unfold Text.dropEnd at hc
  rw [List.getLast?_reverse] at hc
  rw [Option.mem_def.mp hc] at hhead
  simpa using hhead

/-- **A scan lists the package, and then the packages below it**: once each, in the order of the walk,
those at the places where a directory stands and no name on the way is passed over.  The id of a
package below is the id of the package without slashes at its end, and the way to the place.  The
directories that cannot be listed are listed themselves, with a warning each. -/
theorem scan_lists {files : FileTree} {path : String} {place : List String}
    {es : List (String × Entry)} (hfind : files.find path = .ok (place, .dir es)) (id : String) :
    ∃ (stem slashes : String) (below : List (List String)),
      id = stem ++ slashes ∧ stem.toList.getLast? ≠ some '/' ∧ (∀ c ∈ slashes.toList, c = '/') ∧
      let ids := id :: below.map fun names => stem ++ "/" ++ "/".intercalate names
      scan files path id = .ok ids ∧ ids.Nodup ∧ below.Pairwise Precedes ∧
      (∀ names, names ∈ below ↔
        names ≠ [] ∧ (∃ es', (Entry.dir es).at? names = some (.dir es')) ∧
        ∀ name ∈ names, ¬name.startsWith "." ∧ ¬name.startsWith "_" ∧
          name ∉ ["vendor", "testdata", "target", "node_modules"]) ∧
      walk files path id = .ok {
        packages := ids
        warnings := ([] :: below).filterMap fun names =>
          (files.fault? (place ++ names)).map (warning path names) } := by
  have hes : (Entry.dir es).isProper :=
    FileTree.isProper_of_at? (FileTree.find_dir_iff.mp hfind).2.2
  have hids := map_idBelow id es
  have hwalk : walk files path id = .ok {
      packages := (places [] (.dir es)).map (idBelow id)
      warnings := (places [] (.dir es)).filterMap fun names =>
        (files.fault? (place ++ names)).map (warning path names) } := by
    unfold walk
    rw [hfind]
  refine ⟨String.ofList (Text.dropEnd (· == '/') id.toList),
    String.ofList (id.toList.reverse.takeWhile (· == '/')).reverse, placesBelow [] es,
    ?_, ?_, ?_, ?_, ?_, ?_, fun names => ?_, ?_⟩
  · rw [← String.ofList_append, Text.dropEnd_append, String.ofList_toList]
  · intro hlast
    rw [String.toList_ofList] at hlast
    exact absurd (getLast?_dropEnd _ _ _ hlast) (by decide)
  · intro c hc
    rw [String.toList_ofList, List.mem_reverse] at hc
    exact beq_iff_eq.mp (List.mem_takeWhile_imp (p := (· == '/')) hc)
  · unfold scan
    rw [hwalk, ← hids]
    rfl
  · rw [← hids]
    refine List.Nodup.map_on ?_ ((pairwise_places hes).imp Precedes.ne)
    have hproper : ∀ names ∈ places [] (.dir es), ∀ name ∈ names, Path.isName name := by
      intro names hmem
      obtain ⟨_, hat⟩ := ((mem_places hes).mp hmem).1
      exact Entry.isName_of_at? hes hat
    exact fun p hp q hq heq => idBelow_injective (hproper p hp) (hproper q hq) heq
  · exact pairwise_placesBelow hes
  · rw [mem_placesBelow_iff, mem_places hes]
    simp [isSkipped, skippedNames, and_assoc]
  · rw [hwalk, ← hids, places]

/-- A package whose own name would be passed over, with directories that are passed over below it, and
one that cannot be listed. -/
def yard : FileTree where
  root := .dir [("_yard", .dir [
    ("api", .dir [("v1", .dir []), ("vendor", .dir [("lib", .dir [])])]),
    ("api-old", .dir []),
    ("main.go", .text ""),
    ("target", .dir [("api", .dir [])])])]
  unlisted := [(["_yard", "api-old"], .permissionDenied)]

/-- The packages of the yard, for which `api` comes before `api/v1`, and `api-old` after both. -/
theorem scan_lists_yard :
    let ids := ["yard/", "yard/api", "yard/api/v1", "yard/api-old"]
    scan yard "_yard" "yard/" = .ok ids ∧ ids.Nodup ∧
    (∃ below : List (List String), below.Pairwise Precedes ∧ below.length = 3 ∧
      ["api", "v1"] ∈ below ∧ ["api", "vendor", "lib"] ∉ below ∧ ["target", "api"] ∉ below ∧
      ["main.go"] ∉ below) ∧
    walk yard "_yard" "yard/" = .ok {
      packages := ids
      warnings := ["Failed to access path: IO error for operation on _yard/api-old: PermissionDenied"] } := by
  have hfind : yard.find "_yard" = .ok (["_yard"], .dir [
      ("api", .dir [("v1", .dir []), ("vendor", .dir [("lib", .dir [])])]),
      ("api-old", .dir []),
      ("main.go", .text ""),
      ("target", .dir [("api", .dir [])])]) := by rfl
  have hwalk : walk yard "_yard" "yard/" = .ok {
      packages := ["yard/", "yard/api", "yard/api/v1", "yard/api-old"]
      warnings := ["Failed to access path: IO error for operation on _yard/api-old: PermissionDenied"] } :=
    except_of_toOption (by decide +kernel)
  obtain ⟨stem, slashes, below, -, -, -, hids, hnodup, hpairwise, hmem, hlist⟩ :=
    scan_lists hfind "yard/"
  have heq : ["yard/", "yard/api", "yard/api/v1", "yard/api-old"] =
      "yard/" :: below.map fun names => stem ++ "/" ++ "/".intercalate names :=
    congrArg ScanResult.packages (Except.ok.inj (hwalk.symm.trans hlist))
  refine ⟨hids.trans (congrArg Except.ok heq.symm), heq ▸ hnodup,
    ⟨below, hpairwise, ?_, ?_, ?_, ?_, ?_⟩, hwalk⟩
  · simpa using (congrArg List.length heq).symm
  · exact (hmem _).mpr ⟨by decide, ⟨[], rfl⟩, by decide +kernel⟩
  · exact fun h => absurd ((hmem _).mp h).2.2 (by decide +kernel)
  · exact fun h => absurd ((hmem _).mp h).2.2 (by decide +kernel)
  · rintro h
    obtain ⟨es, hes⟩ := ((hmem _).mp h).2.1
    cases hes

end ApiScribe.Package
