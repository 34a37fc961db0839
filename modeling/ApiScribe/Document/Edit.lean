import ApiScribe.Document.Add
import ApiScribe.Document.Info

/-!
Editing a document: operations are added and resources described one after the other, in any order.
An edit that fails leaves the document as it is.
-/

namespace ApiScribe.Document

inductive Edit where
  /-- An operation is added. -/
  | add (d : Draft)
  /-- A line describes a resource. -/
  | subApi (line : String)
  /-- A line describes the document as a whole. -/
  | info (line : String)
  deriving DecidableEq, Repr, Inhabited

def edit (doc : Document) : Edit → Document
  | .add d => ((doc.add d).toOption).getD doc
  | .subApi line => ((doc.applySubApi line).toOption).getD doc
  | .info line => doc.applyInfo line

/-- The document that some edits make of one without resources. -/
def ofEdits (basePath : String) (es : List Edit) : Document := es.foldl edit (start basePath)

variable {doc : Document}

theorem ofEdits_concat (basePath : String) (es : List Edit) (e : Edit) :
    ofEdits basePath (es ++ [e]) = (ofEdits basePath es).edit e := by
  simp [ofEdits]

theorem edit_add_some {d : Draft} {resource : String} (h : d.resourceName? = some resource) :
    doc.edit (.add d) = doc.addTo d resource := by
  simp [edit, add, h, Except.toOption]

theorem edit_add_none {d : Draft} (h : d.resourceName? = none) : doc.edit (.add d) = doc := by
  simp [edit, add, h, Except.toOption]

theorem edit_subApi_some {line : String} {s : SubApi} (h : SubApi.read? line = some s) :
    doc.edit (.subApi line) = doc.describe s := by
  simp [edit, applySubApi, h, Except.toOption]

theorem edit_subApi_none {line : String} (h : SubApi.read? line = none) :
    doc.edit (.subApi line) = doc := by
  simp [edit, applySubApi, h, Except.toOption]

end ApiScribe.Document
