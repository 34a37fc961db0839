import ApiScribe.Proofs.Document.Listing
import ApiScribe.Proofs.Generation.Steps

/-!
# The documents of runs

A run makes its document by edits, and those that describe the document as a whole come first
(`document_ofEdits`).  So what holds of all edited documents holds of the documents of runs; in
particular their listings and declarations agree (`listing_ofEdits`).
-/

namespace ApiScribe

open Document (Edit)

namespace Generator

variable {g : Generator}

theorem infoFirst_append {es es' : List Edit} (hes : ∀ e ∈ es, e.Describes)
    (hes' : ∀ e ∈ es', e.Collects) : Edit.InfoFirst (es ++ es') := by
  intro before d after heq line hline
  rcases List.append_eq_append_iff.mp heq with ⟨middle, rfl, hrest⟩ | ⟨middle, hmiddle, hrest⟩
  · exact hes' _ (by rw [hrest]; simp [hline]) line rfl
  · cases middle with
    | nil => exact hes' (.info line) (by rw [← List.nil_append es', ← hrest]; simp [hline]) line rfl
    | cons e middle =>
      cases hrest
      exact absurd rfl (hes (.add d) (by rw [hmiddle]; simp) d)

/-- **The document of a run is made by edits**, and those that describe it as a whole come first. -/
theorem document_ofEdits {doc : Document} (h : g.document = .ok doc) :
    ∃ es, Edit.InfoFirst es ∧ doc = Document.ofEdits g.config.basePath es := by
  have hmain := proceeds_readMain (g := g) g.start (coherent_empty _)
  unfold document documentBy at h
  rw [show (g.runBy g.describe).run g.start = (g.readMain >>= fun _ => g.readApi) g.start from rfl,
    run_bind] at h
  generalize g.readMain g.start = main at hmain h
  rcases main with ⟨_ | _, p⟩
  · cases h
  · have hapi := proceeds_readApi p hmain.coherent
    dsimp only at h
    generalize g.readApi p = api at hapi h
    rcases api with ⟨_ | _, q⟩
    · cases h
    · obtain ⟨es, hes, hp⟩ := hmain.edits
      obtain ⟨es', hes', hq⟩ := hapi.edits
      refine ⟨es ++ es', infoFirst_append hes hes', ?_⟩
      cases h
      rw [hq, hp, Document.ofEdits, List.foldl_append]
      rfl

end Generator

/-- **In every edited document, listing and declarations agree.** -/
theorem Document.listing_ofEdits :
    (∀ basePath es, let doc := ofEdits basePath es
      let paths := doc.listing.apis.map (·.path)
      paths.Nodup ∧
      (∀ r decl, doc.resource? r = some decl →
        decl.resourcePath = "/" ++ r ∧ paths.count ("/" ++ r) = 1 ∧
        ∀ id m, decl.models.get? id = some m → m.id = id) ∧
      (∀ ref ∈ doc.listing.apis, match (Edit.labels ref.path es).getLast? with
        | some label => ref.description = label
        | none => ∃ before d after, es = before ++ .add d :: after ∧
            d.resourceName?.map ("/" ++ ·) = some ref.path ∧
            ref.path ∉ (ofEdits basePath before).listing.apis.map (·.path) ∧
            ref.description = d.operation.summary) ∧
      (Edit.InfoFirst es → ∀ r decl, doc.resource? r = some decl →
        decl.apiVersion = doc.listing.apiVersion ∧ decl.basePath = doc.listing.basePath)) ∧
    ∀ g doc, Generator.document g = .ok doc →
      ∃ es, Edit.InfoFirst es ∧ doc = ofEdits g.config.basePath es := by
  refine ⟨fun basePath es => ?_, fun g doc h => Generator.document_ofEdits h⟩
  have hdoc := consistent_ofEdits basePath es
  refine ⟨hdoc.distinct, fun r decl hget => ⟨hdoc.resourcePath hget, ?_, fun id m => ?_⟩,
    fun ref href => ?_, uniform_ofEdits basePath⟩
  · rw [hdoc.distinct.count, if_pos (hdoc.listed hget)]
  · exact fun hm => hdoc.models hget hm
  · have href := ResourceListing.description?_of_mem hdoc.distinct href
    split
    · rename_i label hlabel
      rw [described_ofEdits, Edit.described, hlabel, Option.some_or] at href
      exact (Option.some.inj href).symm
    · rename_i hlabels
      exact opened_ofEdits (List.getLast?_eq_none_iff.mp hlabels) href

end ApiScribe
