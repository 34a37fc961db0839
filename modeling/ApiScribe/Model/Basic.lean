import ApiScribe.KeyMap

/-!
Models: the resolved shape of a named type, with the order of its required names and the rules by
which an embedded type is merged into the type that embeds it.
-/

namespace ApiScribe

/-- The elements of an array: a primitive type, or the model with the given id. -/
inductive Items where
  | primitive (name : String)
  | model (id : String)
  deriving DecidableEq, Repr, Inhabited

structure Property where
  /-- A primitive name, `array`, `interface`, or the id of a model. -/
  type : String
  description : String := ""
  items : Option Items := none
  format : String := ""
  deriving DecidableEq, Repr, Inhabited

/-- The property that holds an array. -/
def Property.ofItems (items : Items) : Property where
  type := "array"
  items := some items

/-- A named type with properties, whatever identifies it and whatever is known of a property. -/
structure ModelOf (ι α : Type) where
  id : ι
  /-- The names that must be present, in the order in which they were marked. -/
  required : List String := []
  properties : KeyMap α := ∅
  deriving DecidableEq, Repr, Inhabited

/-- The resolved shape of a named type. -/
abbrev Model := ModelOf String Property

namespace ModelOf

variable {ι κ α β : Type}

/-- Marks a name as required, once. -/
def markRequired (m : ModelOf ι α) (name : String) : ModelOf ι α :=
  if name ∈ m.required then m else { m with required := m.required ++ [name] }

/-- Takes over one property of an embedded model, unless the name is taken.  A required name comes
with its property. -/
def mergeProperty (child m : ModelOf ι α) (entry : String × α) : ModelOf ι α :=
  if m.properties.contains entry.1 then m
  else
    let marked := if entry.1 ∈ child.required then m.markRequired entry.1 else m
    { marked with properties := marked.properties.insert entry.1 entry.2 }

/-- Merges an embedded model: what is already present wins. -/
def merge (m child : ModelOf ι α) : ModelOf ι α :=
  child.properties.entries.foldl child.mergeProperty m

/-- The model with another id and with other properties under the same names. -/
def map (f : ι → κ) (g : α → β) (m : ModelOf ι α) : ModelOf κ β where
  id := f m.id
  required := m.required
  properties := m.properties.map g

@[simp] theorem id_markRequired (m : ModelOf ι α) (name : String) :
    (m.markRequired name).id = m.id := by
  unfold markRequired
  split <;> rfl

@[simp] theorem properties_markRequired (m : ModelOf ι α) (name : String) :
    (m.markRequired name).properties = m.properties := by
  unfold markRequired
  split <;> rfl

@[simp] theorem id_mergeProperty (child m : ModelOf ι α) (entry : String × α) :
    (child.mergeProperty m entry).id = m.id := by
  unfold mergeProperty
  split
  · rfl
  · split <;> simp

@[simp] theorem id_merge (m child : ModelOf ι α) : (m.merge child).id = m.id := by
  unfold merge
  generalize child.properties.entries = es
  induction es generalizing m with
  | nil => rfl
  | cons e es ih => rw [List.foldl_cons, ih, id_mergeProperty]

end ModelOf

namespace Model

/-- Keeps the first model of each id, leaving out the ids in `seen`. -/
def dedupFrom (seen : List String) : List Model → List Model
  | [] => []
  | m :: ms =>
    if m.id ∈ seen then dedupFrom seen ms else m :: dedupFrom (m.id :: seen) ms

/-- Keeps the first model of each id. -/
def dedup (ms : List Model) : List Model := dedupFrom [] ms

end Model

end ApiScribe
