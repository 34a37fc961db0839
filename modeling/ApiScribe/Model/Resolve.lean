import ApiScribe.Model.Build
import ApiScribe.Operation.Draft

/-!
What a type name stands for when it is asked for from outside: a model with the distinct models that
it refers to, or a primitive.
-/

namespace ApiScribe

namespace Workspace

variable (w : Workspace) (overrides : Overrides)

/-- The sketch of a name in a package, and the sketches of what it refers to.  A declared type that
stands for a primitive has a sketch without properties; a primitive has none. -/
def expand (name package : String) : Session Built := do
  match ← Build.start w overrides name package with
  | .built model inner => return (model, inner)
  | .primitive _ (some d) | .reference d => return ({ id := d }, [])
  | .primitive _ none => throw (.modelNotFound name package)

/-- The model of a name in a package, and the models that it refers to. -/
def resolveModel (name package : String) : Session (Model × List Model) := do
  let (model, inner) ← w.expand overrides name package
  return (model.model, Model.dedup (inner.map Sketch.model))

def resolveType (name package : String) : Session Resolved := do
  match ← Build.start w overrides name package with
  | .primitive primitive _ => return .primitive primitive
  | .built model inner => return .model model.model (Model.dedup (inner.map Sketch.model))
  | .reference d => return .model { id := d.modelId } []

/-- The types of a workspace as directives look them up. -/
def lookupTypes : Lookup Memory := resolveType w overrides

end Workspace

end ApiScribe
