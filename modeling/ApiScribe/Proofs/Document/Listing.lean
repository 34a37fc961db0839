import ApiScribe.Proofs.Document.Grouping

/-!
# The listing and the declarations

* `Document.Consistent` — the listed paths are distinct, each resource is listed under its path, and
  each model stands under its id;
* `consistent_ofEdits` — all documents that edits make are consistent;
* `described_ofEdits` — a listed resource is described by the last label for its path, or else by the
  summary of its first operation;
* `uniform_ofEdits` — if the document as a whole is described before operations are added, the
  declarations repeat what the listing says of it.
-/

namespace ApiScribe

/-! ### The paths and the descriptions of a listing -/

namespace ResourceListing

/-- The description of a listed path. -/
def description? (refs : List ApiRef) (path : String) : Option String :=
  (refs.find? (·.path = path)).map (·.description)

theorem description?_cons (ref : ApiRef) (refs : List ApiRef) (path : String) :
    description? (ref :: refs) path =
      if ref.path = path then some ref.description else description? refs path := by
  unfold description?
  rw [List.find?_cons]
  by_cases h : ref.path = path <;> simp [h]

theorem description?_append (refs refs' : List ApiRef) (path : String) :
    description? (refs ++ refs') path = (description? refs path).or (description? refs' path) := by
  unfold description?
  rw [List.find?_append]
  cases refs.find? (·.path = path) <;> simp

theorem mem_paths {refs : List ApiRef} {path : String} :
    path ∈ refs.map (·.path) ↔ ∃ d, description? refs path = some d := by
  induction refs with
  | nil => simp [description?]
  | cons ref refs ih =>
    rw [List.map_cons, List.mem_cons, ih, description?_cons]
    by_cases h : ref.path = path
    · simp [h]
    · simp [h, Ne.symm h]

theorem description?_of_mem {refs : List ApiRef} (h : (refs.map (·.path)).Nodup) {ref : ApiRef}
    (href : ref ∈ refs) : description? refs ref.path = some ref.description := by
  induction refs with
  | nil => cases href
  | cons other refs ih =>
    obtain ⟨hnew, hrest⟩ := List.nodup_cons.mp h
    rw [description?_cons]
    rcases List.mem_cons.mp href with rfl | href
    · rw [if_pos rfl]
    · have hne : other.path ≠ ref.path := fun heq =>
        hnew (List.mem_map.mpr ⟨ref, href, heq.symm⟩)
      rw [if_neg hne, ih hrest href]

variable (l : ResourceListing)

theorem paths_addRef (path description : String) :
    (l.addRef path description).apis.map (·.path) = pushNew (l.apis.map (·.path)) path := by
  unfold addRef pushNew
  have hiff : l.apis.any (·.path == path) = true ↔ path ∈ l.apis.map (·.path) := by
    rw [List.any_eq_true, List.mem_map]
    exact exists_congr fun ref => and_congr_right fun _ => beq_iff_eq
  simp only [hiff]
  split <;> simp

theorem description?_addRef (path description path' : String) :
    description? (l.addRef path description).apis path' =
      (description? l.apis path').or (if path = path' then some description else none) := by
  unfold addRef
  split
  · rename_i h
    split
    · rename_i heq
      subst heq
      obtain ⟨d, hd⟩ := mem_paths.mp
        (show path ∈ l.apis.map (·.path) by simpa [List.any_eq_true] using h)
      rw [hd]
      rfl
    · rw [Option.or_none]
  · rw [description?_append, description?_cons]
    rfl

theorem paths_redescribe (s : SubApi) (refs : List ApiRef) :
    (redescribe s refs).map (·.path) = pushNew (refs.map (·.path)) s.path := by
  induction refs with
  | nil => rfl
  | cons ref refs ih =>
    unfold redescribe
    split
    · rename_i h
      simp [pushNew, h]
    · rename_i h
      rw [List.map_cons, ih, List.map_cons]
      unfold pushNew
      have hiff : s.path ∈ ref.path :: refs.map (·.path) ↔ s.path ∈ refs.map (·.path) := by
        simp [Ne.symm h]
      simp only [hiff]
      split <;> rfl

theorem description?_redescribe (s : SubApi) (refs : List ApiRef) (path : String) :
    description? (redescribe s refs) path =
      if s.path = path then some s.description else description? refs path := by
  induction refs with
  | nil => rw [redescribe, description?_cons]
  | cons ref refs ih =>
    unfold redescribe
    split
    · rename_i h
      rw [description?_cons, description?_cons, h]
      split <;> rfl
    · rename_i h
      rw [description?_cons, ih, description?_cons]
      by_cases hpath : s.path = path
      · subst hpath
        rw [if_neg h, if_pos rfl, if_pos rfl]
      · rw [if_neg hpath, if_neg hpath]

end ResourceListing

/-! ### Models -/

/-- Each model stands under its id. -/
def ByIds (models : KeyMap Model) : Prop := ∀ {id m}, models.get? id = some m → m.id = id

theorem ByIds.insertNew {models : KeyMap Model} (h : ByIds models) (m : Model) :
    ByIds (models.insertNew m.id m) :=
  fun hget => KeyMap.of_get?_insertNew (P := fun id m => m.id = id) h rfl hget

theorem ByIds.absorb {decl : ApiDeclaration} (h : ByIds decl.models) (d : Draft) :
    ByIds (decl.absorb d).models := by
  show ByIds (d.models.foldl (fun ms m => ms.insertNew m.id m) decl.models)
  generalize decl.models = models at h
  induction d.models generalizing models with
  | nil => exact h
  | cons m ms ih => exact ih _ (h.insertNew m)

namespace Document

open ResourceListing

/-! ### Consistent documents -/

/-- The listing and the declarations of a document agree. -/
structure Consistent (doc : Document) : Prop where
  distinct : (doc.listing.apis.map (·.path)).Nodup
  listed : ∀ {r decl}, doc.resource? r = some decl → "/" ++ r ∈ doc.listing.apis.map (·.path)
  resourcePath : ∀ {r decl}, doc.resource? r = some decl → decl.resourcePath = "/" ++ r
  models : ∀ {r decl}, doc.resource? r = some decl → ByIds decl.models

theorem consistent_start (basePath : String) : Consistent (start basePath) where
  distinct := List.nodup_nil
  listed := fun h => nomatch h
  resourcePath := fun h => nomatch h
  models := fun h => nomatch h

variable {doc : Document}

theorem Consistent.addTo (h : Consistent doc) (d : Draft) (resource : String) :
    Consistent (doc.addTo d resource) where
  distinct := by
    show ((doc.listing.addRef _ _).apis.map (·.path)).Nodup
    rw [paths_addRef]
    exact nodup_pushNew h.distinct
  listed := fun {r decl} hget => by
    show "/" ++ r ∈ (doc.listing.addRef _ _).apis.map (·.path)
    rw [paths_addRef, mem_pushNew]
    exact KeyMap.of_get?_insert
      (P := fun r _ => "/" ++ r ∈ doc.listing.apis.map (·.path) ∨ "/" ++ r = "/" ++ resource)
      (fun hget => Or.inl (h.listed hget)) (Or.inr rfl) hget
  resourcePath := fun {r decl} hget => by
    refine KeyMap.of_get?_insert (P := fun r decl => decl.resourcePath = "/" ++ r)
      (fun hget => h.resourcePath hget) ?_ hget
    show ((doc.apis.get? resource).getD (doc.listing.declare _)).resourcePath = _
    cases hold : doc.apis.get? resource with
    | none => rfl
    | some decl => exact h.resourcePath hold
  models := fun {r decl} hget => by
    refine KeyMap.of_get?_insert (P := fun _ decl => ByIds decl.models)
      (fun hget => h.models hget) ?_ hget
    refine ByIds.absorb ?_ d
    cases hold : doc.apis.get? resource with
    | none => exact fun hm => nomatch hm
    | some decl => exact h.models hold

theorem Consistent.describe (h : Consistent doc) (s : SubApi) : Consistent (doc.describe s) where
  distinct := by
    show ((redescribe s doc.listing.apis).map (·.path)).Nodup
    rw [paths_redescribe]
    exact nodup_pushNew h.distinct
  listed := fun {r decl} hget => by
    show "/" ++ r ∈ (redescribe s doc.listing.apis).map (·.path)
    rw [paths_redescribe, mem_pushNew]
    exact Or.inl (h.listed hget)
  resourcePath := h.resourcePath
  models := h.models

theorem apis_setInfo (l : ResourceListing) (tag value : String) :
    (setInfo l tag value).apis = l.apis := by
  unfold setInfo
  split <;> rfl

theorem listing_apis_applyInfo (doc : Document) (line : String) :
    (doc.applyInfo line).listing.apis = doc.listing.apis := by
  unfold applyInfo
  split
  · exact apis_setInfo ..
  · rfl

theorem Consistent.applyInfo (h : Consistent doc) (line : String) :
    Consistent (doc.applyInfo line) := by
  have hapis := apis_applyInfo doc line
  have hlisting := listing_apis_applyInfo doc line
  have hresource : ∀ r, (doc.applyInfo line).resource? r = doc.resource? r := fun r => by
    unfold resource?
    rw [hapis]
  constructor
  · rw [hlisting]
    exact h.distinct
  · intro r decl hget
    rw [hlisting]
    exact h.listed (hresource r ▸ hget)
  · exact fun hget => h.resourcePath (hresource _ ▸ hget)
  · exact fun hget => h.models (hresource _ ▸ hget)

theorem Consistent.edit (h : Consistent doc) (e : Edit) : Consistent (doc.edit e) := by
  cases e with
  | add d =>
    cases hd : d.resourceName? with
    | none => rwa [edit_add_none hd]
    | some resource =>
      rw [edit_add_some hd]
      exact h.addTo d resource
  | subApi line =>
    cases hs : SubApi.read? line with
    | none => rwa [edit_subApi_none hs]
    | some s =>
      rw [edit_subApi_some hs]
      exact h.describe s
  | info line => exact h.applyInfo line

theorem consistent_ofEdits (basePath : String) (es : List Edit) :
    Consistent (ofEdits basePath es) := by
  induction es using List.reverseRecOn with
  | nil => exact consistent_start basePath
  | append_singleton es e ih =>
    rw [ofEdits_concat]
    exact ih.edit e

/-! ### Where a description comes from -/

namespace Edit

/-- The label that an edit gives to a path. -/
def label? (path : String) : Edit → Option String
  | .subApi line =>
    (SubApi.read? line).bind fun s => if s.path = path then some s.description else none
  | _ => none

/-- The operation that an edit adds to the resource with a path. -/
def opening? (path : String) : Edit → Option Draft
  | .add d => if d.resourceName?.map ("/" ++ ·) = some path then some d else none
  | _ => none

/-- The labels that some edits give to a path. -/
def labels (path : String) (es : List Edit) : List String := es.filterMap (label? path)

/-- The operations that some edits add to the resource with a path. -/
def openings (path : String) (es : List Edit) : List Draft := es.filterMap (opening? path)

/-- What the edits say of a path: the last label, or else the summary of the first operation. -/
def described (path : String) (es : List Edit) : Option String :=
  (labels path es).getLast?.or ((openings path es).head?.map (·.operation.summary))

theorem described_concat (path : String) (es : List Edit) (e : Edit) :
    described path (es ++ [e]) = match e.label? path with
      | some label => some label
      | none => (described path es).or ((e.opening? path).map (·.operation.summary)) := by
  unfold described labels openings
  rw [List.filterMap_append, List.filterMap_append, List.head?_append]
  cases hlabel : e.label? path with
  | some label => simp [hlabel]
  | none =>
    have hopening : ([e].filterMap (opening? path)).head? = e.opening? path := by
      cases he : e.opening? path <;> simp [he]
    rw [hopening, Option.map_or, Option.or_assoc]
    simp [hlabel]

end Edit

theorem description?_edit (doc : Document) (e : Edit) (path : String) :
    description? (doc.edit e).listing.apis path = match e.label? path with
      | some label => some label
      | none => (description? doc.listing.apis path).or
          ((e.opening? path).map (·.operation.summary)) := by
  cases e with
  | add d =>
    show _ = (description? doc.listing.apis path).or
      ((if d.resourceName?.map ("/" ++ ·) = some path then some d else none).map _)
    cases hd : d.resourceName? with
    | none => simp [edit_add_none hd]
    | some resource =>
      rw [edit_add_some hd]
      show description? (doc.listing.addRef _ _).apis path = _
      rw [description?_addRef]
      by_cases h : "/" ++ resource = path <;> simp [h]
  | subApi line =>
    show _ = match (SubApi.read? line).bind fun s =>
        if s.path = path then some s.description else none with
      | some label => some label
      | none => (description? doc.listing.apis path).or none
    cases hs : SubApi.read? line with
    | none => simp [edit_subApi_none hs]
    | some s =>
      rw [edit_subApi_some hs]
      show description? (redescribe s doc.listing.apis) path = _
      rw [description?_redescribe]
      by_cases h : s.path = path <;> simp [h]
  | info line =>
    show description? (doc.applyInfo line).listing.apis path =
      (description? doc.listing.apis path).or none
    rw [listing_apis_applyInfo, Option.or_none]

/-- **A path is listed with what the edits say of it**, and not listed if they say nothing. -/
theorem described_ofEdits (basePath : String) (es : List Edit) (path : String) :
    description? (ofEdits basePath es).listing.apis path = Edit.described path es := by
  induction es using List.reverseRecOn with
  | nil => rfl
  | append_singleton es e ih => rw [ofEdits_concat, description?_edit, Edit.described_concat, ih]

theorem opened_ofEdits {basePath : String} {es : List Edit} {path description : String}
    (hlabels : Edit.labels path es = [])
    (h : description? (ofEdits basePath es).listing.apis path = some description) :
    ∃ before d after, es = before ++ .add d :: after ∧
      d.resourceName?.map ("/" ++ ·) = some path ∧
      path ∉ (ofEdits basePath before).listing.apis.map (·.path) ∧
      description = d.operation.summary := by
  rw [described_ofEdits] at h
  have hopen : ∃ d, (Edit.openings path es).head? = some d ∧ description = d.operation.summary := by
    unfold Edit.described at h
    rw [hlabels] at h
    obtain ⟨d, hd, rfl⟩ := Option.map_eq_some_iff.mp h
    exact ⟨d, hd, rfl⟩
  obtain ⟨d, hd, hdescription⟩ := hopen
  obtain ⟨rest, hrest⟩ := List.head?_eq_some_iff.mp hd
  obtain ⟨before, tail, rfl, hbefore, htail⟩ := List.filterMap_eq_append_iff.mp
    (show es.filterMap (Edit.opening? path) = [] ++ d :: rest from hrest)
  obtain ⟨idle, e, after, rfl, hidle, he, -⟩ := List.filterMap_eq_cons_iff.mp htail
  cases e with
  | add d' =>
    obtain ⟨hpath, hd'⟩ := Option.ite_none_right_eq_some.mp he
    cases hd'
    refine ⟨before ++ idle, d, after, by simp, hpath, fun hlisted => ?_, hdescription⟩
    obtain ⟨old, hold⟩ := mem_paths.mp hlisted
    rw [described_ofEdits] at hold
    have hnone : Edit.labels path (before ++ idle) = [] := by
      unfold Edit.labels at hlabels ⊢
      rw [← List.append_assoc, List.filterMap_append] at hlabels
      exact (List.append_eq_nil_iff.mp hlabels).1
    have hunopened : Edit.openings path (before ++ idle) = [] := by
      unfold Edit.openings
      rw [List.filterMap_append, hbefore, List.nil_append]
      exact List.filterMap_eq_nil_iff.mpr hidle
    unfold Edit.described at hold
    rw [hnone, hunopened] at hold
    cases hold
  | subApi line => cases he
  | info line => cases he

/-! ### Versions and base paths -/

/-- The document as a whole is described before any operation is added. -/
def Edit.InfoFirst (es : List Edit) : Prop :=
  ∀ before d after, es = before ++ .add d :: after → ∀ line, .info line ∉ after

theorem Edit.InfoFirst.init {es : List Edit} {e : Edit} (h : Edit.InfoFirst (es ++ [e])) :
    Edit.InfoFirst es := by
  rintro before d after rfl line hline
  exact h before d (after ++ [e]) (by simp) line (List.mem_append_left _ hline)

/-- The declarations repeat what the listing says of the API. -/
def Uniform (doc : Document) : Prop :=
  ∀ r decl, doc.resource? r = some decl →
    decl.apiVersion = doc.listing.apiVersion ∧ decl.basePath = doc.listing.basePath

theorem Uniform.addTo (h : Uniform doc) (d : Draft) (resource : String) :
    Uniform (doc.addTo d resource) := by
  have hlisting : (doc.addTo d resource).listing.apiVersion = doc.listing.apiVersion ∧
      (doc.addTo d resource).listing.basePath = doc.listing.basePath := by
    unfold Document.addTo addRef
    dsimp only
    split <;> exact ⟨rfl, rfl⟩
  intro r decl hget
  rw [hlisting.1, hlisting.2]
  refine KeyMap.of_get?_insert (P := fun _ decl => decl.apiVersion = doc.listing.apiVersion ∧
    decl.basePath = doc.listing.basePath) (fun hget => h _ _ hget) ?_ hget
  show ((doc.apis.get? resource).getD (doc.listing.declare _)).apiVersion = _ ∧
    ((doc.apis.get? resource).getD (doc.listing.declare _)).basePath = _
  cases hold : doc.apis.get? resource with
  | none => exact ⟨rfl, rfl⟩
  | some decl => exact h _ _ hold

/-- **If the document as a whole is described first, the declarations repeat it.** -/
theorem uniform_ofEdits (basePath : String) {es : List Edit} (h : Edit.InfoFirst es) :
    Uniform (ofEdits basePath es) := by
  induction es using List.reverseRecOn with
  | nil => exact fun _ _ hget => nomatch hget
  | append_singleton es e ih =>
    have ih := ih h.init
    rw [ofEdits_concat]
    cases e with
    | add d =>
      cases hd : d.resourceName? with
      | none => rwa [edit_add_none hd]
      | some resource =>
        rw [edit_add_some hd]
        exact ih.addTo d resource
    | subApi line =>
      cases hs : SubApi.read? line with
      | none => rwa [edit_subApi_none hs]
      | some s =>
        rw [edit_subApi_some hs]
        exact ih
    | info line =>
      -- no operation has been added before, so there is no declaration
      intro r decl hget
      have hget : (ofEdits basePath es).resource? r = some decl := by
        unfold resource? at hget ⊢
        rwa [show ((ofEdits basePath es).edit (.info line)).apis = _ from apis_applyInfo _ _] at hget
      have hroutes : (ofEdits basePath es).routes? r = some decl.apis := by
        unfold routes?
        rw [hget, Option.map_some]
      rw [routes?_ofEdits] at hroutes
      split at hroutes
      · cases hroutes
      · rename_i hne
        obtain ⟨d, hd⟩ := List.exists_mem_of_ne_nil _ hne
        obtain ⟨before, after, rfl⟩ := List.append_of_mem (Edit.mem_addedTo.mp hd).1
        refine absurd ?_ (h before d (after ++ [.info line]) (by simp) line)
        simp

end Document

end ApiScribe
