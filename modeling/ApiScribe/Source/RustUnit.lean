import ApiScribe.Error
import ApiScribe.Source.RustType

/-!
Rust sources as a whole.  Items behind `#[cfg(test)]` do not count; of the others, the types,
functions and imports are taken over, and the comment lines on all that stands below them.
-/

namespace ApiScribe.RustUnit

open RustGrammar

/-! ### Attributes -/

/-- The trees between the brackets of an attribute. -/
def content (p : RustPhrase) : List RustTree :=
  p.trees.dropWhile fun t => signChar '#' false t || signChar '!' false t

/-- The comment line that an attribute `doc = "..."` stands for. -/
def docLine? (p : RustPhrase) : Option String :=
  match content p with
  | [.leaf (.name "doc"), .leaf (.sign '=' _), .leaf (.text value)] => some (Text.trimmed value)
  | _ => none

/-- Whether an attribute is `cfg(test)`. -/
def isTestGate (p : RustPhrase) : Bool :=
  match content p with
  | [.leaf (.name "cfg"), .group _ _ _ [.leaf (.name "test")]] => true
  | _ => false

def outerAttributes (p : RustPhrase) : List RustPhrase := p.all .outerAttribute

/-- The attributes inside a phrase, or inside its body. -/
def innerAttributes (p : RustPhrase) : List RustPhrase :=
  p.all .innerAttribute ++
    (p.parts.filter fun q => q.isA .body || q.isA .innerBlock).flatMap (Phrase.all .innerAttribute)

def docLines (attributes : List RustPhrase) : List String := attributes.filterMap docLine?

/-- The names whose inner attributes belong to the phrase around them. -/
def isBody (k : Name) : Bool := k == .body || k == .innerBlock

mutual

/-- The comment lines on a phrase and on all that stands below it.  The inner attributes of a
phrase come before its other parts. -/
def allDocLines : RustPhrase → List String
  | .leaf _ => []
  | .node k ps =>
    if k = .outerAttribute then (docLine? (.node k ps)).toList
    else if k = .innerAttribute || ps.any (Phrase.isA .unread) then []
    else
      (if isBody k then [] else docLines (innerAttributes (.node k ps))) ++ allDocLinesOf ps

/-- The comment lines on some phrases. -/
def allDocLinesOf : List RustPhrase → List String
  | [] => []
  | p :: ps => allDocLines p ++ allDocLinesOf ps

end

/-! ### Serialization hints -/

/-- What the attributes of a field tell about its serialization. -/
structure SerdeHints where
  rename : Option String := none
  skip : Bool := false
  flatten : Bool := false

/-- A path of words in an attribute. -/
def metaPath : RustRule :=
  Rule.opt pathSeparator ++ anyWord ++ Rule.many (pathSeparator ++ anyWord)

/-- Matches a rule with the names of the grammar. -/
def match? (r : RustRule) (ts : List RustTree) : Option (List RustPhrase × List RustTree) :=
  r.run (grammar.read (64 * (ts.length + 1))) ts

/-- Takes over one hint: what it tells, and what follows it.  A hint that is not understood ends the
reading. -/
def serdeHint (h : SerdeHints) (ts : List RustTree) : SerdeHints × Option (List RustTree) :=
  match match? metaPath ts with
  | none => (h, none)
  | some (path, rest) =>
    match path with
    | [.leaf (.leaf (.name "rename"))] =>
      match rest with
      | .leaf (.sign '=' _) :: .leaf (.text value) :: rest =>
        ({ h with rename := some value }, some rest)
      | _ => (h, none)
    | [.leaf (.leaf (.name "skip"))] | [.leaf (.leaf (.name "skip_serializing"))] =>
      ({ h with skip := true }, some rest)
    | [.leaf (.leaf (.name "flatten"))] => ({ h with flatten := true }, some rest)
    | _ =>
      match rest with
      | .leaf (.sign '=' _) :: value => (h, (match? expression value).map Prod.snd)
      | _ => (h, some rest)

/-- Takes over hints with commas between them, at most `fuel` of them. -/
def serdeList : Nat → SerdeHints → List RustTree → SerdeHints
  | 0, h, _ | _, h, [] => h
  | fuel + 1, h, ts =>
    match serdeHint h ts with
    | (h, some (.leaf (.sign ',' _) :: rest)) => serdeList fuel h rest
    | (h, _) => h

def serdeAttribute (h : SerdeHints) (p : RustPhrase) : SerdeHints :=
  match content p with
  | [.leaf (.name "serde"), .group _ _ _ items] => serdeList items.length h items
  | _ => h

/-! ### Declarations -/

section

-- How deep phrases are inside each other at most.
variable (depth : Nat)

/-- The word behind a given one. -/
def nameBehind (keyword : String) (p : RustPhrase) : String :=
  match p.trees.dropWhile fun t => nameOf? t != some keyword with
  | _ :: t :: _ => (nameOf? t).getD ""
  | _ => ""

/-- The type that stands in a phrase. -/
def typeIn (p : RustPhrase) : TypeExpr :=
  ((RustType.firstType? p).map (RustType.ofPhrase depth)).getD (.unsupported "type")

def fieldOf (p : RustPhrase) : FieldDecl :=
  let serde := (outerAttributes p).foldl serdeAttribute {}
  let docs := docLines (outerAttributes p)
  { name := if serde.flatten then none else p.trees.head?.bind nameOf?
    type := typeIn depth p
    hints := {
      rename := serde.rename
      required := !((RustType.firstType? p).map RustType.isOption).getD false
      description := if docs.isEmpty then none else some (" ".intercalate docs)
      skip := serde.skip } }

/-- A struct; one with a single unnamed field stands for the type of the field. -/
def structOf (p : RustPhrase) : TypeDecl :=
  { name := nameBehind "struct" p
    kind := match p.all .tupleField with
      | [sole] => .synonym (typeIn depth sole)
      | _ => .struct ((p.all .field).map (fieldOf depth)) }

def functionOf (receiver : Option String) (attributes : List RustPhrase) (p : RustPhrase) :
    FunctionDecl :=
  { name := ((p.first? .signature).map (nameBehind "fn")).getD ""
    receiver
    doc := docLines (attributes ++ innerAttributes p) }

def methodsOf (p : RustPhrase) : List FunctionDecl :=
  let receiver := (RustType.firstType? p).bind (RustType.selfName? depth)
  (p.all .implMember).filterMap fun member =>
    (member.first? .functionItem).map (functionOf receiver (outerAttributes member))

def useTreeOf : Nat → RustPhrase → UseTree
  | 0, _ => .glob
  | depth + 1, p =>
    match p.trees.filterMap nameOf?, p.all .useTree with
    | [segment], [tree] => .path segment (useTreeOf depth tree)
    | [segment], _ => .name segment
    | [segment, _, newName], _ => .renamed segment newName
    | _, trees => if p.trees.any (signChar '*' false) then .glob else .group (trees.map (useTreeOf depth))

/-- What an item adds to a unit. -/
def declare (u : SourceUnit) (attributes : List RustPhrase) (p : RustPhrase) : SourceUnit :=
  match p with
  | .node .useItem _ =>
    let trees := (p.all .useTree).map (useTreeOf depth)
    { u with imports := u.imports ++ trees.flatMap (UseTree.imports []) }
  | .node .structItem _ => { u with types := u.types ++ [structOf depth p] }
  | .node .aliasItem _ =>
    { u with types := u.types ++ [⟨nameBehind "type" p, .synonym (typeIn depth p)⟩] }
  | .node .traitItem _ => { u with types := u.types ++ [⟨nameBehind "trait" p, .interface⟩] }
  | .node .functionItem _ =>
    { u with functions := u.functions ++ [functionOf none attributes p] }
  | .node .implItem _ => { u with functions := u.functions ++ methodsOf depth p }
  | _ => u

/-- The part of an item that says what it is. -/
def subject? (item : RustPhrase) : Option RustPhrase :=
  item.parts.find? fun p => match p with
    | .node k _ => !(k == .outerAttribute || k == .visibility)
    | .leaf _ => false

/-- Whether the attributes of an item of this kind are looked at for a test gate. -/
def mayBeGated (p : RustPhrase) : Bool := !(p.isA .otherItem || p.isA .unread)

def isTestOnly (item : RustPhrase) : Bool :=
  match subject? item with
  | some p => mayBeGated p && (outerAttributes item ++ innerAttributes p).any isTestGate
  | none => false

def addItem (u : SourceUnit) (item : RustPhrase) : SourceUnit :=
  if isTestOnly item then u
  else
    let u := { u with comments := u.comments ++ allDocLines item }
    match subject? item with
    | some p => declare depth u (outerAttributes item) p
    | none => u

end

/-- The unit of a well-formed source. -/
def ofFile (depth : Nat) (path : String) (file : RustPhrase) : SourceUnit :=
  (file.all .item).foldl (addItem depth)
    { path, comments := docLines (file.all .innerAttribute) }

def read (path source : String) : Except Error SourceUnit :=
  let cs := source.toList
  let depth := 64 * (cs.length + 1)
  let file := do
    let tokens ← RustToken.ofSource? cs
    let trees ← Tree.ofTokens? RustToken.nesting tokens
    grammar.read depth .file trees
  match file with
  | some (file :: _, _) => .ok (ofFile depth path file)
  | _ => .error (.parse path "")

end ApiScribe.RustUnit
