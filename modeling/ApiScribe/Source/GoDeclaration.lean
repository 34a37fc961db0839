import ApiScribe.Source.GoToken
import ApiScribe.Source.StructTag

/-!
The declarations of Go sources: type expressions, struct fields, imports, and the receivers of
methods, read from the token trees of one declaration.
-/

namespace ApiScribe

abbrev GoTree := Tree GoToken

namespace GoTree

def isComment : GoTree → Bool
  | .leaf t => t.kind == .comment
  | _ => false

/-- Whether a tree ends a statement. -/
def isStop : GoTree → Bool
  | .leaf t => t.kind == .stop
  | _ => false

/-- Whether a tree is a given sign or reserved word. -/
def isWord (text : String) : GoTree → Bool
  | .leaf t => (t.kind == .sign || t.kind == .keyword) && t.text == text
  | _ => false

def name? : GoTree → Option String
  | .leaf t => if t.kind = .name then some t.text else none
  | _ => none

def literal? : GoTree → Option String
  | .leaf t => if t.kind = .text then some t.text else none
  | _ => none

def group? (d : Delimiter) : GoTree → Option (List GoTree)
  | .group d' _ _ items => if d' = d then some items else none
  | _ => none

end GoTree

namespace GoDeclaration

open GoTree

def unquote (literal : String) : String :=
  let cs := Text.trim literal.toList
  let within (q : Char) : Option (List Char) :=
    match cs with
    | c :: r => if c = q ∧ r.getLast? = some q then some r.dropLast else none
    | [] => none
  String.ofList (((within '"').or (within '\x60')).getD cs)

section

variable (source : List Char)

/-- The source text from the first to the last of some trees. -/
def textOf (ts : List GoTree) : String :=
  match ts.head?, ts.getLast? with
  | some a, some b =>
    String.ofList ((source.drop a.first.start).take (b.last.stop - a.first.start))
  | _, _ => ""

/-- The trees without the comments at either end. -/
def bare (ts : List GoTree) : List GoTree :=
  ((ts.dropWhile isComment).reverse.dropWhile isComment).reverse

/-! ### Types -/

/-- The type that some trees write.  A comment right behind a star or an opening parenthesis takes
the place of the type. -/
def typeOf : Nat → List GoTree → TypeExpr
  | 0, ts => .unsupported (textOf source (bare ts))
  | fuel + 1, ts =>
    let wrapped (inner : List GoTree) : TypeExpr :=
      match inner with
      | .leaf t :: _ => if t.kind = .comment then .unsupported t.text else typeOf fuel inner
      | _ => typeOf fuel inner
    let ts := bare ts
    match ts with
    | .group .paren _ _ inner :: _ => wrapped inner
    | .group .bracket _ _ _ :: element => .array (typeOf fuel element)
    | .leaf t :: rest =>
      if isWord "*" (.leaf t) then wrapped rest
      else if isWord "interface" (.leaf t) then .interface
      else if isWord "map" (.leaf t) then
        match rest.dropWhile isComment with
        | .group .bracket _ _ _ :: value => .map (typeOf fuel value)
        | _ => .unsupported (textOf source ts)
      else match (ts.filter fun t => !isComment t) with
        | [n] => (name? n).elim (.unsupported (textOf source ts)) (.named none)
        | n :: dot :: m :: _ =>
          match name? n, isWord "." dot, name? m with
          | some n, true, some m => .named (some n) m
          | some n, false, _ =>
            if (group? .bracket dot).isSome then .named none n
            else .unsupported (textOf source ts)
          | _, _, _ => .unsupported (textOf source ts)
        | [n, arguments] =>
          match name? n, group? .bracket arguments with
          | some n, some _ => .named none n
          | _, _ => .unsupported (textOf source ts)
        | [] => .unsupported (textOf source ts)
    | _ => .unsupported (textOf source ts)

/-- The type that some trees write; each step goes to fewer trees or into a group. -/
def type (ts : List GoTree) : TypeExpr := typeOf source source.length ts

/-! ### Struct fields -/

/-- The names before the type of a field, and the trees of the type; no names for an embedded
field.  `pending` is the name read last, with the trees from it on: it is that of a field unless a dot
follows, or brackets with no type behind them. -/
def fieldNames (pending : Option (String × List GoTree)) :
    List GoTree → List String × List GoTree
  | [] => ([], (pending.map Prod.snd).getD [])
  | t :: rest =>
    if isComment t then fieldNames pending rest
    else match pending with
      | none =>
        match name? t with
        | some n => fieldNames (some (n, t :: rest)) rest
        | none => ([], if isWord "*" t then rest else t :: rest)
      | some (n, embedded) =>
        if isWord "," t then
          let (ns, type) := fieldNames none rest
          (n :: ns, type)
        else if isWord "." t then ([], embedded)
        else if (group? .bracket t).isSome && rest.all isComment then ([], embedded)
        else ([n], t :: rest)

/-- The fields that one line of a struct declares. -/
def fieldsOf (ts : List GoTree) : List FieldDecl :=
  let ts := bare ts
  if ts.isEmpty then []
  else
    let (ts, hints) := match ts.getLast?.bind literal? with
      | some tag => (bare ts.dropLast, StructTag.hints (unquote tag))
      | none => (ts, {})
    let (names, typeTrees) := fieldNames none ts
    let type := type source typeTrees
    if names.isEmpty then [{ name := none, type, hints }]
    else names.map fun name => { name := some name, type, hints }

/-! ### Type declarations -/

/-- Whether a tree behind another can only be the start of a type. -/
def startsType : GoTree → Bool
  | .leaf t => t.kind == .name || t.kind == .keyword
  | .group d _ _ _ => d == .bracket

/-- Whether the trees between the brackets behind a type name declare type parameters, and are not
the length of an array.  A length has no commas and no type in it; brackets behind its name hold an
index, and a star makes it a product. -/
def declaresParameters (ts : List GoTree) : Bool :=
  match ts.filter fun t => !isComment t with
  | n :: next :: more =>
    (name? n).isSome && ((next :: more).any (isWord ",") || isWord "~" next ||
      match next with
      | .leaf _ => startsType next
      | .group d _ _ inner =>
        d == .bracket && (inner.isEmpty || (more.head?.map startsType).getD false))
  | _ => false

/-- The declaration of a name and its type. -/
def typeSpec? (ts : List GoTree) : Option TypeDecl :=
  match bare ts with
  | [] => none
  | t :: rest =>
    match name? t with
    | none => none
    | some name =>
      let rest := bare rest
      let rest := match rest with
        | .group .bracket _ _ inner :: r => if declaresParameters inner then bare r else rest
        | _ => rest
      let rest := match rest with
        | eq :: r => if isWord "=" eq then bare r else rest
        | [] => []
      match rest with
      | [] => none
      | head :: body =>
        if isWord "struct" head then
          let lines := match (bare body).head?.bind (group? .brace) with
            | some items => splitRuns isStop items
            | none => []
          some ⟨name, .struct (lines.flatMap (fieldsOf source))⟩
        else if isWord "interface" head then some ⟨name, .interface⟩
        else some ⟨name, .synonym (type source rest)⟩

/-- The specifications behind a keyword: one, or a list in parentheses. -/
def specs (ts : List GoTree) : List (List GoTree) :=
  match bare ts with
  | .group .paren _ _ items :: _ => splitRuns isStop items
  | ts => [ts]

/-! ### Imports -/

/-- The import that a specification writes. -/
def importSpec? (ts : List GoTree) : Option ImportDecl :=
  match ts.filter fun t => !isComment t with
  | [p] => (literal? p).map fun path => { path := unquote path }
  | [.leaf n, p] => (literal? p).map fun path => { path := unquote path, givenName := some n.text }
  | _ => none

/-! ### Functions -/

/-- The type trees of the first parameter: those behind its name, and behind the names that share
its type. -/
def firstParameter : List (List GoTree) → List GoTree
  | [] => []
  | run :: runs =>
    match bare run with
    | [t] =>
      match name? t, firstParameter runs with
      | some _, shared => if shared.length ≤ 1 || !sharesType runs then [t] else shared
      | none, _ => [t]
    | t :: rest =>
      match name? t, rest with
      | some _, next :: more =>
        if isWord "." next then t :: rest
        else if (group? .bracket next).isSome && more.isEmpty then t :: rest
        else bare rest
      | _, _ => t :: rest
    | [] => []
where
  /-- Whether the first run that is more than a name is a name and a type. -/
  sharesType : List (List GoTree) → Bool
    | [] => false
    | run :: runs =>
      match bare run with
      | [t] => (name? t).isSome && sharesType runs
      | t :: next :: more =>
        (name? t).isSome && !isWord "." next && !((group? .bracket next).isSome && more.isEmpty)
      | [] => false

/-- The name of the type of a receiver, without a star and without type arguments. -/
def receiver? (params : List GoTree) : Option String :=
  let ts := bare (firstParameter (splitRuns (isWord ",") params))
  let ts := match ts with
    | star :: rest =>
      if isWord "*" star then
        match rest with
        | c :: _ => if isComment c then [c] else rest
        | [] => []
      else ts
    | [] => []
  match ts with
  | [] => none
  | _ =>
    match ts.getLast?, ts.dropLast with
    | some lastTree, n :: more =>
      if (group? .bracket lastTree).isSome && (name? n).isSome then
        some (textOf source (bare (n :: more)))
      else some (textOf source ts)
    | _, _ => some (textOf source ts)

/-- The function or the method that some trees declare. -/
def function? (doc : List String) (ts : List GoTree) : Option FunctionDecl :=
  match ts.filter fun t => !isComment t with
  | keyword :: n :: rest =>
    if !isWord "func" keyword then none
    else match name? n with
      | some name => some { name, doc }
      | none =>
        match group? .paren n, rest.head?.bind name? with
        | some params, some name => some { name, receiver := receiver? source params, doc }
        | _, _ => none
  | _ => none

end

end GoDeclaration

end ApiScribe
