import ApiScribe.Model.Basic
import ApiScribe.Model.Find
import ApiScribe.Model.Reach

/-!
Building models from declarations.  Embedded types are merged into the model, and each type that a
property refers to is resolved in turn: into a primitive, into a reference to a type that is under
way or complete, or into a new model.

Types may refer to each other in circles.  What is under way is passed along, so that no type is
built inside itself, and calls are not in one another without end.  They are unrolled (`callsTo`) to
a depth that the files tell, and that is never reached.
-/

namespace ApiScribe

/-! ### Declarations -/

/-- A declaration, with the package that declares it. -/
structure Declared where
  decl : TypeDecl
  package : String
  deriving DecidableEq, Repr, Inhabited

/-- What a declaration gives to those who refer to it. -/
inductive Role where
  /-- It is another name for a primitive. -/
  | primitive (name : String)
  /-- It is another name for the type of the given name. -/
  | follows (name : String)
  /-- It has a model of its own. -/
  | model
  deriving DecidableEq, Repr

namespace Declared

variable (overrides : Overrides)

def modelId (d : Declared) : String := TypeName.modelId d.package d.decl.name

def role (d : Declared) : Role :=
  match d.decl.kind with
  | .synonym type =>
    match Shape.ofType overrides type with
    | .single (.primitive primitive) => .primitive primitive
    | .single (.reference name) => .follows name
    | _ => .model
  | _ => .model

end Declared

/-- The name of the type that a field embeds. -/
def FieldDecl.embedded? (overrides : Overrides) (f : FieldDecl) : Option String :=
  if f.hints.skip || f.name.isSome then none else Shape.reference? overrides f.type

/-! ### Models under construction -/

/-- What a property, or each of its elements, holds. -/
inductive Content where
  /-- A primitive, or an untyped value. -/
  | primitive (name : String)
  /-- The model of a declaration. -/
  | model (d : Declared)
  /-- A type that has not been resolved yet, by the name under which it is written. -/
  | pending (typeName : String)
  deriving DecidableEq, Repr, Inhabited

namespace Content

def text : Content → String
  | primitive name | pending name => name
  | model d => d.modelId

/-- What stands in a property for its elements. -/
def items : Content → Items
  | primitive name => .primitive name
  | model d => .model d.modelId
  | pending typeName => .model typeName

/-- The type name that is not resolved yet. -/
def pending? : Content → Option String
  | pending typeName => some typeName
  | _ => none

/-- The declaration whose model is referred to. -/
def model? : Content → Option Declared
  | model d => some d
  | _ => none

end Content

/-- A property under construction. -/
structure Part where
  content : Content
  /-- Whether the elements of the property hold it. -/
  inItems : Bool := false
  description : String := ""
  deriving DecidableEq, Repr, Inhabited

namespace Part

def property (p : Part) : Property :=
  if p.inItems then { Property.ofItems p.content.items with description := p.description }
  else { type := p.content.text, description := p.description }

/-- Puts what a type name stands for into a property that refers to it. -/
def settle (typeName : String) (content : Content) (p : Part) : Part :=
  if p.content = .pending typeName then { p with content } else p

end Part

/-- The model of a declaration under construction. -/
abbrev Sketch := ModelOf Declared Part

/-- A model, and the models built for its references. -/
abbrev Built := Sketch × List Sketch

namespace Sketch

variable (overrides : Overrides)

def model (s : Sketch) : Model := s.map Declared.modelId Part.property

/-- The part for a field, if its type can be shown. -/
def partOf? (f : FieldDecl) : Option Part :=
  let part (inItems : Bool) (content : Content) : Part :=
    { content, inItems, description := f.hints.description.getD "" }
  let content : Element → Content
    | .primitive name => .primitive name
    | .interface => .primitive "interface"
    | .reference name => .pending name
  match Shape.ofType overrides f.type with
  | .single e => some (part false (content e))
  | .many e => some (part true (content e))
  | .unsupported => none

/-- Adds a field; it takes the place of an earlier one with its name.  Skipped, embedded and
unsupported fields add nothing. -/
def addField (s : Sketch) (f : FieldDecl) : Sketch :=
  match f.hints.skip, f.name, partOf? overrides f with
  | false, some fieldName, some part =>
    let name := f.hints.rename.getD fieldName
    let marked := if f.hints.required then s.markRequired name else s
    { marked with properties := marked.properties.insert name part }
  | _, _, _ => s

/-- The sketch of a struct without its embedded fields. -/
def ofFields (d : Declared) (fields : List FieldDecl) : Sketch :=
  fields.foldl (addField overrides) { id := d }

/-- The distinct names of types that are still to be resolved, in order. -/
def typeNames (s : Sketch) : List String :=
  (KeyMap.ofList ((s.properties.values.filterMap fun p => p.content.pending?).map (·, ()))).keys

/-- Puts what a type name stands for into all properties that refer to it. -/
def settle (s : Sketch) (typeName : String) (content : Content) : Sketch :=
  { s with properties := s.properties.map (Part.settle typeName content) }

end Sketch

/-! ### Building -/

/-- The types around the one that is being built, by their ids. -/
structure Trail where
  /-- The types that are under way. -/
  inProgress : List String := []
  /-- The types that are being merged into one model, that model included. -/
  embedding : List String := []
  deriving DecidableEq, Repr

namespace Trail

/-- The trail behind a declaration that is another name. -/
def follow (trail : Trail) (d : Declared) : Trail :=
  { trail with inProgress := d.modelId :: trail.inProgress }

/-- The trail inside a declaration whose model is begun. -/
def enter (trail : Trail) (d : Declared) : Trail :=
  { inProgress := d.modelId :: trail.inProgress, embedding := [d.modelId] }

/-- The trail inside an embedded declaration. -/
def embed (trail : Trail) (d : Declared) : Trail :=
  { trail with embedding := d.modelId :: trail.embedding }

end Trail

/-- What a type name turns out to be. -/
inductive Outcome where
  /-- A primitive, with the declaration that is another name for it. -/
  | primitive (name : String) (source : Option Declared)
  /-- A type that is under way or complete. -/
  | reference (d : Declared)
  /-- A new model, with the models built for its references. -/
  | built (model : Sketch) (inner : List Sketch)
  deriving DecidableEq, Repr

namespace Outcome

/-- What a property holds that refers to the type name. -/
def content : Outcome → Content
  | primitive name _ => .primitive name
  | reference d => .model d
  | built model _ => .model model.id

def models : Outcome → List Sketch
  | built model inner => model :: inner
  | _ => []

end Outcome

/-- A session that gives no answer where calls go too deep. -/
abbrev Search := ExceptT Error (StateT Memory Option)

instance : MonadLift Session Search := ⟨fun x m => some (x m)⟩

/-- Building: the state holds the ids of the models that are complete. -/
abbrev Build := StateT (List String) Search

namespace Build

/-- The calls that lead from one declaration to the next. -/
structure Calls where
  /-- Resolves a name in a package. -/
  resolve : Trail → String → String → Build Outcome
  /-- Builds the model of an embedded type, if it has properties to merge. -/
  embed : Trail → String → String → Build (Option Built)

variable (w : Workspace) (overrides : Overrides) (calls : Calls)

/-- The declaration that a name means in a package. -/
def find (name package : String) : Session Declared := do
  let (decl, package) ← w.findDefinition name package
  return { decl, package }

/-- Builds the models of the embedded fields among some fields. -/
def embedAll (trail : Trail) (package : String) : List FieldDecl → Build (List Built)
  | [] => return []
  | f :: fs => do
    match f.embedded? overrides with
    | none => embedAll trail package fs
    | some name =>
      let found ← calls.embed trail name package
      let others ← embedAll trail package fs
      return found.toList ++ others

/-- Resolves some type names of a model one after the other. -/
def settleAll (trail : Trail) (package : String) : List String → Built → Build Built
  | [], built => return built
  | name :: names, built => do
    let outcome ← calls.resolve trail name package
    settleAll trail package names
      (built.1.settle name outcome.content, built.2 ++ outcome.models)

/-- Builds the model of a declaration.  Only structs have properties. -/
def expand (trail : Trail) (d : Declared) : Build Built := do
  match d.decl.kind with
  | .struct fields =>
    let embedded ← embedAll overrides calls trail d.package fields
    let sketch := Sketch.ofFields overrides d fields
    let model := embedded.foldl (fun s child => s.merge child.1) sketch
    settleAll calls trail d.package sketch.typeNames (model, embedded.flatMap Prod.snd)
  | _ => return ({ id := d }, [])

/-- Resolves a name in a package, with the given calls for what it leads to. -/
def resolve (trail : Trail) (name package : String) : Build Outcome := do
  match TypeName.primitive? overrides name with
  | some primitive => return .primitive primitive none
  | none =>
    let d ← find w name package
    if d.modelId ∈ trail.inProgress ∨ d.modelId ∈ (← get) then return .reference d
    match d.role overrides with
    | .primitive primitive => return .primitive primitive (some d)
    | .follows target => calls.resolve (trail.follow d) target d.package
    | .model =>
      let (model, inner) ← expand overrides calls (trail.enter d) d
      modify (d.modelId :: ·)
      return .built model inner

/-- Builds the model of an embedded type, with the given calls for what it leads to. -/
def embed (trail : Trail) (name package : String) : Build (Option Built) := do
  let d ← find w name package
  if d.modelId ∈ trail.embedding then return none
  match d.role overrides, d.decl.kind with
  | .follows target, _ => calls.embed (trail.embed d) target d.package
  | _, .synonym _ => return none
  | _, _ => return some (← expand overrides calls (trail.embed d) d)

/-! ### Unrolling -/

def Calls.none : Calls where
  resolve _ _ _ _ _ := Option.none
  embed _ _ _ _ _ := Option.none

/-- Calls that are found out only where they are made. -/
def Calls.delay (calls : Unit → Calls) : Calls where
  resolve trail name package := (calls ()).resolve trail name package
  embed trail name package := (calls ()).embed trail name package

/-- The calls to some depth, with others below it. -/
def callsAbove (below : Calls) : Nat → Calls
  | 0 => below
  | depth + 1 =>
    let calls := callsAbove below depth
    { resolve := resolve w overrides calls, embed := embed w overrides calls }

/-- The calls to some depth. -/
def callsTo (depth : Nat) : Calls := callsAbove w overrides .none depth

/-- Resolves a name in a package from the start.  How deep that can go takes all files to tell, which
are not read as long as a moderate depth will do. -/
def start (name package : String) : Session Outcome := fun m =>
  let calls := callsAbove w overrides
    (.delay fun _ => callsTo w overrides (w.depthFrom overrides [name] package)) 1000
  ((calls.resolve {} name package).run' [] m).getD (.error .endless, m)

end Build

end ApiScribe
