import ApiScribe.Source.Grammar
import ApiScribe.Source.RustToken

/-!
The grammar of Rust sources.  It says which sources are well formed, and names the phrases that
declare something; what stands between them is matched but not told apart further.
-/

namespace ApiScribe

namespace RustGrammar

/-- The names of the grammar.  A flag on a type says whether `+` may join further bounds to it; a
flag on an expression says whether a struct literal may stand in it without parentheses. -/
inductive Name where
  -- attributes
  | outerAttribute | innerAttribute
  -- items
  | file | item | useItem | useTree | looseTree | structItem | aliasItem | traitItem | functionItem
  | implItem | moduleItem | enumItem | otherItem | unread
  | visibility | signature | body | field | tupleField | parameter | variant
  | implMember | traitMember | foreignMember
  -- types
  | type (joined : Bool) | pathType | groupType | boundType (joined : Bool) | arrayType
  | referenceType | functionType | otherType | segment | argument | furtherBounds | outerLifetimes
  | bounds | generics | whereClause
  -- patterns
  | pattern | singlePattern
  -- expressions
  | expression (bare : Bool) | operand (bare : Bool) | operands (bare : Bool) | range (bare : Bool)
  | trailer | blockLike | block | innerBlock | statement | arm | path
  deriving DecidableEq, Repr, Inhabited

abbrev RustTree := Tree RustToken
abbrev RustRule := Rule Name RustToken

/-! ### Rules over Rust tokens -/

abbrev call (k : Name) : RustRule := Rule.call k

abbrev oneOf (rs : List RustRule) : RustRule := Rule.oneOf rs

abbrev opt (r : RustRule) : RustRule := Rule.opt r

abbrev many (r : RustRule) : RustRule := Rule.many r

/-- What follows matches, but is not taken. -/
abbrev ahead (r : RustRule) : RustRule := Rule.ahead r

/-- What follows does not match. -/
abbrev absent (r : RustRule) : RustRule := Rule.absent r

open Rule

/-! ### Tokens -/

def reserved : List String :=
  ["_", "abstract", "as", "async", "await", "become", "box", "break", "const", "continue", "crate",
    "do", "dyn", "else", "enum", "extern", "false", "final", "fn", "for", "if", "impl", "in", "let",
    "loop", "macro", "match", "mod", "move", "mut", "override", "priv", "pub", "ref", "return",
    "Self", "self", "static", "struct", "super", "trait", "true", "try", "type", "typeof", "unsafe",
    "unsized", "use", "virtual", "where", "while", "yield"]

/-- The text of a name or a reserved word. -/
def nameOf? : RustTree → Option String
  | .leaf (.name text) => some text
  | _ => none

def word (text : String) : RustRule := one fun t => nameOf? t == some text

def words (texts : List String) : RustRule :=
  one fun t => ((nameOf? t).map texts.contains).getD false

def anyWord : RustRule := one fun t => (nameOf? t).isSome

/-- A name that is not reserved. -/
def ident : RustRule := one fun t => ((nameOf? t).map fun w => !reserved.contains w).getD false

/-- A sign, given whether it must stand right before another. -/
def signChar (c : Char) (joint : Bool) : RustTree → Bool
  | .leaf (.sign c' j) => c == c' && (!joint || j)
  | _ => false

/-- Signs right behind each other. -/
def signs : List Char → RustRule
  | [] => nothing
  | [c] => one (signChar c false)
  | c :: cs => one (signChar c true) ++ signs cs

def sign (text : String) : RustRule := signs text.toList

/-- A sign that is not the beginning of one of some longer ones. -/
def signBut (text : String) (longer : List String) : RustRule :=
  inOrder (longer.map (fun l => absent (sign l)) ++ [sign text])

def lifetime : RustRule := one fun
  | .leaf (.lifetime _) => true
  | _ => false

def textLiteral : RustRule := one fun
  | .leaf (.text _) => true
  | _ => false

def number : RustRule := one fun
  | .leaf (.number _) => true
  | _ => false

/-- A literal; the words for truth are literals too. -/
def literal : RustRule := one fun
  | .leaf (.text _) | .leaf (.number _) | .leaf .literal => true
  | t => nameOf? t == some "true" || nameOf? t == some "false"

def anyGroup : RustRule := one fun
  | .group _ _ _ _ => true
  | _ => false

def groupOf (d : Delimiter) : RustRule := one fun
  | .group d' _ _ _ => d' == d
  | _ => false

def paren (r : RustRule) : RustRule := within .paren r
def bracket (r : RustRule) : RustRule := within .bracket r
def brace (r : RustRule) : RustRule := within .brace r

def comma : RustRule := sign ","
def colon : RustRule := signBut ":" ["::"]
def equals : RustRule := signBut "=" ["==", "=>"]
def pathSeparator : RustRule := sign "::"

def commas (r : RustRule) : RustRule := Rule.list r comma

/-- The names that may start a path besides those that are not reserved. -/
def pathWords : List String := ["super", "self", "Self", "crate"]

/-- A path without types: words between double colons. -/
def plainPath : RustRule :=
  opt pathSeparator ++ oneOf [ident, words pathWords] ++ many (pathSeparator ++ anyWord)

/-- The braces, brackets or parentheses behind the name of a macro. -/
def macroCall : RustRule := signBut "!" ["!="] ++ anyGroup

/-! ### Attributes -/

/-- What stands between the brackets of an attribute. -/
def attributeContent : RustRule :=
  oneOf [word "unsafe" ++ ahead (groupOf .paren), plainPath] ++
    oneOf [anyGroup ++ stop, sign "=" ++ literal ++ stop,
      sign "=" ++ absent (sign "#" ++ groupOf .bracket) ++ call (.expression true) ++ stop, stop]

def outerAttributes : RustRule := many (call .outerAttribute)
def innerAttributes : RustRule := many (call .innerAttribute)

/-! ### Types -/

def type : RustRule := call (.type true)
def narrowType : RustRule := call (.type false)

def forLifetimes : RustRule :=
  word "for" ++ sign "<" ++ commas (outerAttributes ++ lifetime ++
    opt (colon ++ Rule.list lifetime (sign "+"))) ++ sign ">"

def angleArguments : RustRule := sign "<" ++ commas (call .argument) ++ sign ">"

def typeSegment : RustRule :=
  oneOf [words ["super", "self", "crate", "try"],
    oneOf [word "Self", ident] ++
      opt (oneOf [signBut "<" ["<="], pathSeparator ++ ahead (sign "<") ++ sign "<"] ++
        commas (call .argument) ++ sign ">")]

def typeSegments : RustRule :=
  call .segment ++ many (pathSeparator ++ absent (groupOf .paren) ++ call .segment)

/-- The type that a path starts from, in angle brackets. -/
def selfQualifier (segments : RustRule) : RustRule :=
  sign "<" ++ type ++ opt (word "as" ++ opt pathSeparator ++ typeSegments) ++ sign ">" ++
    pathSeparator ++ segments

/-- The arguments in parentheses and the result behind a path. -/
def parenArguments : RustRule :=
  opt pathSeparator ++ paren (commas type) ++ opt (sign "->" ++ narrowType)

def typePath : RustRule :=
  oneOf [selfQualifier typeSegments, opt pathSeparator ++ typeSegments] ++
    opt (ahead (opt pathSeparator ++ groupOf .paren) ++ parenArguments ++
      many (pathSeparator ++ call .segment))

def traitBound : RustRule :=
  let open_ := opt (sign "?") ++ opt forLifetimes ++
    opt (oneOf [sign "~" ++ word "const", word "const", word "async"]) ++ opt (sign "?") ++
    opt forLifetimes ++ typePath
  oneOf [paren open_, open_]

/-- A bound that is no trait. -/
def plainBound : RustRule :=
  oneOf [lifetime, word "use" ++ sign "<" ++ commas (oneOf [lifetime, anyWord]) ++ sign ">"]

def bound : RustRule := oneOf [plainBound, traitBound]

/-- Whether a trait is among the bounds that follow, or the first of them. -/
def boundsTrait (joined : Bool) : RustRule :=
  ahead ((if joined then many (plainBound ++ sign "+") else nothing) ++ traitBound)

def someBounds : RustRule := bound ++ many (sign "+" ++ bound) ++ opt (sign "+")

/-- Bounds behind a colon, perhaps none. -/
def colonBounds : RustRule := colon ++ opt (call .bounds)

def functionType : RustRule :=
  opt (word "unsafe") ++ opt (word "extern" ++ opt textLiteral) ++ word "fn" ++
    paren (commas (outerAttributes ++
      oneOf [sign "...", oneOf [anyWord] ++ colon ++ oneOf [sign "...", type], type])) ++
    opt (sign "->" ++ narrowType)

def typeRule (joined : Bool) : RustRule :=
  let more := if joined then opt (call .furtherBounds) else nothing
  oneOf [
    call .groupType ++ more,
    call .arrayType,
    call .referenceType,
    call (.boundType joined),
    opt (call .outerLifetimes) ++ oneOf [call .functionType,
      call .pathType ++ oneOf [macroCall, more]],
    call .otherType]

/-! ### Generics -/

def genericParameter : RustRule :=
  outerAttributes ++ oneOf [
    lifetime ++ opt (colon ++ Rule.list lifetime (sign "+")),
    word "const" ++ ident ++ colon ++ type ++
      opt (equals ++ oneOf [call .block, opt (sign "-") ++ literal, ident]),
    ident ++ opt colonBounds ++ opt (equals ++ type)]

def genericsRule : RustRule := sign "<" ++ commas genericParameter ++ sign ">"

def wherePredicate : RustRule :=
  oneOf [lifetime ++ colon ++ opt (Rule.list lifetime (sign "+")),
    opt forLifetimes ++ type ++ colonBounds]

def generics : RustRule := opt (call .generics)
def whereClause : RustRule := opt (call .whereClause)

/-! ### Items -/

def visibility : RustRule := opt (call .visibility)

def visibilityRule : RustRule :=
  word "pub" ++ opt (oneOf [paren (words ["crate", "self", "super"] ++ stop),
    paren (word "in" ++ plainPath ++ stop)])

def useTreeRule : RustRule :=
  oneOf [sign "*", brace (commas (call .useTree)),
    oneOf [ident, words ["self", "super", "crate", "try"]] ++
      oneOf [pathSeparator ++ call .useTree, word "as" ++ oneOf [ident, word "_"], nothing]]

/-- A tree of imports in which a path may start anew from the root. -/
def looseTreeRule : RustRule :=
  oneOf [sign "*", brace (commas (opt pathSeparator ++ call .looseTree)),
    oneOf [ident, words ["self", "super", "crate", "try"]] ++
      oneOf [pathSeparator ++ call .looseTree, word "as" ++ oneOf [ident, word "_"], nothing]]

def namedFields : RustRule := brace (commas (call .field))
def tupleFields : RustRule := paren (commas (call .tupleField))

def structRule : RustRule :=
  word "struct" ++ ident ++ generics ++
    oneOf [tupleFields ++ whereClause ++ sign ";", whereClause ++ oneOf [namedFields, sign ";"]]

def variantRule : RustRule :=
  outerAttributes ++ visibility ++ ident ++ opt (oneOf [namedFields, tupleFields]) ++
    opt (equals ++ call (.expression true))

def callingConvention : RustRule := word "extern" ++ opt textLiteral

/-- What may stand before `fn`. -/
def functionQualifiers : RustRule :=
  opt (word "const") ++ opt (word "async") ++ opt (oneOf [word "safe", word "unsafe"]) ++
    opt callingConvention

def selfParameter : RustRule :=
  oneOf [sign "&" ++ opt lifetime ++ opt (word "mut") ++ word "self" ++ absent colon,
    opt (word "mut") ++ word "self" ++ absent pathSeparator ++ opt (colon ++ type)]

def parameterRule : RustRule :=
  outerAttributes ++ oneOf [sign "...", selfParameter,
    call .singlePattern ++ colon ++ oneOf [sign "...", type]]

def signatureRule : RustRule :=
  functionQualifiers ++ word "fn" ++ ident ++ generics ++ paren (commas (call .parameter)) ++
    opt (sign "->" ++ type) ++ whereClause

def value : RustRule := equals ++ call (.expression true)

def constant : RustRule :=
  word "const" ++ oneOf [ident, word "_"] ++ colon ++ type ++ value ++ sign ";"

/-- A constant that may lack its value or have parameters. -/
def looseConstant : RustRule :=
  word "const" ++ oneOf [ident, word "_"] ++ generics ++ colon ++ type ++ opt value ++
    whereClause ++ sign ";"

def static : RustRule :=
  word "static" ++ opt (word "mut") ++ ident ++ colon ++ type ++ value ++ sign ";"

/-- A static variable that lacks its type or its value. -/
def looseStatic : RustRule :=
  word "static" ++ opt (word "mut") ++ ident ++
    oneOf [value ++ sign ";", colon ++ type ++ sign ";"]

def aliasRule : RustRule :=
  word "type" ++ ident ++ generics ++ whereClause ++ equals ++ type ++ whereClause ++ sign ";"

/-- An alias that may lack its type or have bounds. -/
def looseAlias : RustRule :=
  word "type" ++ ident ++ generics ++ opt colonBounds ++ whereClause ++ opt (equals ++ type) ++
    whereClause ++ sign ";"

/-- A dot or a question mark, with which an expression goes on. -/
def continuation : RustRule := oneOf [signBut "." [".."], sign "?"]

def macroItem : RustRule :=
  plainPath ++ signBut "!" ["!="] ++ opt (oneOf [ident, word "try"]) ++
    oneOf [groupOf .brace ++ absent continuation, absent (groupOf .brace) ++ anyGroup ++ sign ";"]

def macroDefinition : RustRule :=
  word "macro" ++ ident ++ opt (groupOf .paren) ++ groupOf .brace

def traitRule : RustRule :=
  opt (word "unsafe") ++ opt (word "auto") ++ word "trait" ++ ident ++ generics ++
    opt colonBounds ++ whereClause ++ brace (innerAttributes ++ many (call .traitMember))

def traitAlias : RustRule :=
  word "trait" ++ ident ++ generics ++ equals ++ opt (call .bounds) ++ whereClause ++ sign ";"

/-- Whether angle brackets behind `impl` hold parameters and not the start of a path. -/
def startsParameters : RustRule :=
  sign "<" ++ oneOf [sign ">", sign "#", word "const",
    oneOf [lifetime, ident] ++ oneOf [colon, comma, sign ">", sign "="]]

def implHead : RustRule := oneOf [ahead startsParameters ++ generics, nothing]

def implBody : RustRule :=
  whereClause ++ brace (innerAttributes ++ many (call .implMember))

/-- An implementation, of a trait or without. -/
def implRule : RustRule :=
  opt (word "default") ++ opt (word "unsafe") ++ word "impl" ++ implHead ++
    oneOf [
      opt (sign "!" ++ absent (groupOf .brace)) ++ ahead (call .pathType ++ word "for") ++
        call .otherType ++ word "for" ++ type,
      type] ++ implBody

/-- An implementation with a visibility or a constant trait, or of something else than a path. -/
def looseImpl : RustRule :=
  opt (word "default") ++ opt (word "unsafe") ++ word "impl" ++ implHead ++
    opt (opt (sign "?") ++ word "const") ++
    oneOf [sign "!" ++ absent (groupOf .brace) ++ type ++ word "for" ++ type,
      type ++ opt (word "for" ++ type)] ++ implBody

def moduleRule : RustRule :=
  opt (word "unsafe") ++ word "mod" ++ oneOf [ident, word "try"] ++
    oneOf [sign ";", brace (innerAttributes ++ many (call .item))]

def foreignModule : RustRule :=
  opt (word "unsafe") ++ word "extern" ++ opt textLiteral ++
    brace (innerAttributes ++ many (call .foreignMember))

def externCrate : RustRule :=
  word "extern" ++ word "crate" ++ oneOf [ident, word "self"] ++
    opt (word "as" ++ oneOf [ident, word "_"]) ++ sign ";"

def itemRule : RustRule :=
  oneOf [
    visibility ++ call .useItem,
    visibility ++ call .structItem,
    visibility ++ call .enumItem,
    visibility ++ call .aliasItem,
    visibility ++ call .traitItem,
    visibility ++ call .functionItem,
    visibility ++ call .moduleItem,
    call .implItem,
    call .otherItem,
    call .unread]

/-- Items that declare nothing for a unit. -/
def otherItemRule : RustRule :=
  oneOf [
    visibility ++ oneOf [constant, static, externCrate, traitAlias,
      word "union" ++ ident ++ generics ++ whereClause ++ namedFields],
    foreignModule,
    macroItem]

/-- Items whose comments do not count, since no part of them is read. -/
def unreadRule : RustRule :=
  visibility ++ oneOf [
    word "use" ++ call .looseTree ++ sign ";",
    call .signature ++ sign ";",
    macroDefinition,
    looseConstant,
    looseStatic,
    looseAlias,
    looseImpl]

def default : RustRule := opt (word "default" ++ absent (sign "!"))

def implMemberRule : RustRule :=
  outerAttributes ++ visibility ++ default ++
    oneOf [call .functionItem, constant, aliasRule, macroItem, call .unread]

/-- An item of a trait; one that is public or a default is left unread. -/
def traitMemberRule : RustRule :=
  outerAttributes ++ oneOf [
    call .functionItem,
    call .signature ++ sign ";",
    looseConstant,
    looseAlias,
    macroItem,
    call .unread]

def foreignMemberRule : RustRule :=
  outerAttributes ++ oneOf [
    visibility ++ oneOf [
      call .signature ++ sign ";",
      opt (words ["safe", "unsafe"]) ++ word "static" ++ opt (word "mut") ++ ident ++ colon ++
        type ++ sign ";",
      word "type" ++ ident ++ generics ++ whereClause ++ sign ";"],
    macroItem,
    call .unread]

/-- An item of another item that is left unread. -/
def unreadMember : RustRule :=
  visibility ++ default ++ oneOf [
    call .functionItem,
    call .signature ++ sign ";",
    looseConstant,
    looseAlias,
    opt (words ["safe", "unsafe"]) ++ oneOf [static, looseStatic]]

/-! ### Patterns -/

/-- The end of a range of a pattern. -/
def patternBound : RustRule :=
  oneOf [opt (sign "-") ++ literal, word "const" ++ call .block, call .path]

def rangeSign : RustRule := oneOf [sign "..=", sign "...", sign ".."]

/-- The signs of a range of values. -/
def spanSign : RustRule := oneOf [sign "..=", signBut ".." ["..."]]

def fieldPattern : RustRule :=
  outerAttributes ++ oneOf [sign "..",
    oneOf [ident, number] ++ colon ++ call .pattern,
    opt (word "box") ++ opt (word "ref") ++ opt (word "mut") ++ ident]

def binding : RustRule :=
  opt (word "ref") ++ opt (word "mut") ++ oneOf [ident, word "self"] ++
    opt (sign "@" ++ call .singlePattern)

/-- What makes a name in a pattern the start of a path. -/
def pathSign : RustRule :=
  oneOf [pathSeparator, signBut "!" ["!="], groupOf .brace, groupOf .paren, sign ".."]

def singlePatternRule : RustRule :=
  oneOf [
    word "_",
    word "box" ++ call .singlePattern,
    ahead (words ["ref", "mut"]) ++ binding,
    absent (oneOf [ident, word "self"] ++ pathSign) ++ binding,
    sign "&" ++ opt (word "mut") ++ call .singlePattern,
    paren (commas (call .pattern)),
    bracket (commas (call .pattern)),
    oneOf [opt (sign "-") ++ literal, word "const" ++ call .block] ++
      opt (rangeSign ++ opt patternBound),
    rangeSign ++ opt patternBound,
    call .path ++ oneOf [macroCall, brace (commas fieldPattern), paren (commas (call .pattern)),
      rangeSign ++ opt patternBound, nothing]]

def patternBar : RustRule := signBut "|" ["||", "|="]

def patternRule : RustRule :=
  opt patternBar ++ Rule.chain (call .singlePattern) patternBar

/-! ### Expressions -/

def expression : RustRule := call (.expression true)

/-- A segment of the path of an expression: arguments stand behind a double colon. -/
def pathRule : RustRule :=
  let segment := oneOf [words ["super", "self", "crate", "try"],
    oneOf [word "Self", ident] ++ opt (pathSeparator ++ ahead (sign "<") ++ angleArguments)]
  let segments := Rule.chain segment pathSeparator
  oneOf [selfQualifier segments, opt pathSeparator ++ segments]

def structBody : RustRule :=
  brace (many (outerAttributes ++ oneOf [ident ++ absent colon, oneOf [ident, number] ++ colon ++
    expression] ++ oneOf [comma, stop]) ++ opt (sign ".." ++ opt expression))

def closureParameter : RustRule :=
  outerAttributes ++ call .singlePattern ++ opt (colon ++ type)

def closure (bare : Bool) : RustRule :=
  opt forLifetimes ++ opt (word "const") ++ opt (word "static") ++ opt (word "async") ++
    opt (word "move") ++ sign "|" ++ commas closureParameter ++ sign "|" ++
    oneOf [sign "->" ++ type ++ call .block, call (.expression bare)]

def label : RustRule := lifetime ++ colon

/-- An operand without trailers. -/
def atom (bare : Bool) : RustRule :=
  let noBrace := if bare then nothing else absent (groupOf .brace)
  oneOf [
    literal,
    word "async" ++ opt (word "move") ++ call .block,
    closure bare,
    call .path ++ oneOf [macroCall, if bare then structBody else absent nothing, nothing],
    paren (commas expression),
    bracket (oneOf [expression ++ sign ";" ++ expression, commas expression]),
    word "break" ++ opt lifetime ++ opt (noBrace ++ call (.expression bare)),
    word "continue" ++ opt lifetime,
    word "return" ++ opt (noBrace ++ call (.expression bare)),
    word "yield" ++ opt (noBrace ++ call (.expression bare)),
    word "become" ++ call (.expression bare),
    word "let" ++ call .pattern ++ equals ++ call (.operands false),
    call .blockLike,
    spanSign ++ opt (noBrace ++ call (.range bare)),
    word "_"]

def trailerRule : RustRule :=
  oneOf [
    paren (commas expression),
    bracket expression,
    sign "?",
    signBut "." [".."] ++ oneOf [word "await", number,
      ident ++ opt (pathSeparator ++ angleArguments ++ ahead (groupOf .paren))]]

def operandRule (bare : Bool) : RustRule :=
  outerAttributes ++ oneOf [
    sign "&" ++ opt (word "raw" ++ ahead (words ["mut", "const"])) ++
      opt (words ["mut", "const"]) ++ call (.operand bare),
    oneOf [sign "*", signBut "!" ["!="], sign "-"] ++ call (.operand bare),
    atom bare ++ many (call .trailer)]

def arithmeticSign : RustRule :=
  oneOf [signBut "<<" ["<<="], signBut ">>" [">>="], signBut "+" ["+="], signBut "-" ["-="],
    signBut "*" ["*="], signBut "/" ["/="], signBut "%" ["%="], signBut "^" ["^="],
    signBut "&" ["&&", "&="], signBut "|" ["||", "|="]]

def comparisonSign : RustRule :=
  oneOf [signBut "==" [], sign "!=", sign "<=", sign ">=", signBut "<" ["<<"], signBut ">" [">>"]]

/-- The part of an expression behind an operand that binds tighter than comparison. -/
def arithmetic (bare : Bool) : RustRule :=
  many (oneOf [arithmeticSign ++ call (.operand bare), word "as" ++ narrowType])

/-- What follows the first operand of a comparison; comparisons do not follow each other. -/
def comparison (bare : Bool) : RustRule :=
  arithmetic bare ++ opt (comparisonSign ++ call (.operand bare) ++ arithmetic bare ++
    absent comparisonSign)

def logicSign : RustRule := oneOf [sign "&&", sign "||"]

def assignmentSign : RustRule :=
  oneOf ([equals] ++ ["+=", "-=", "*=", "/=", "%=", "^=", "&=", "|=", "<<=", ">>="].map sign)

/-- What follows the first operand of an expression. -/
def expressionRest (bare : Bool) : RustRule :=
  let noBrace := if bare then nothing else absent (groupOf .brace)
  comparison bare ++
    many (oneOf [logicSign, assignmentSign] ++ call (.operands bare)) ++
    opt (spanSign ++ opt (noBrace ++ call (.range bare)))

/-- An expression that may stand as a statement without semicolon. -/
def blockLikeRule : RustRule :=
  oneOf [
    word "if" ++ call (.expression false) ++ call .block ++
      opt (word "else" ++ oneOf [ahead (word "if") ++ call .blockLike, call .block]),
    word "match" ++ call (.expression false) ++ brace (innerAttributes ++ many (call .arm)),
    word "unsafe" ++ call .innerBlock,
    word "const" ++ call .innerBlock,
    word "try" ++ call .block,
    opt label ++ oneOf [
      word "while" ++ call (.expression false) ++ call .innerBlock,
      word "loop" ++ call .innerBlock,
      word "for" ++ call .pattern ++ word "in" ++ call (.expression false) ++ call .innerBlock,
      call .innerBlock]]

/-- The words and groups with which only a block-like expression starts. -/
def blockStart : RustRule :=
  oneOf [words ["if", "match", "unsafe", "while", "loop", "try"], groupOf .brace]

/-- An expression up to an end mark, which a block-like one may lack. -/
def closedBy (mark : RustRule) : RustRule :=
  oneOf [
    outerAttributes ++ call .blockLike ++
      oneOf [ahead continuation ++ many (call .trailer) ++ expressionRest true ++ oneOf [mark, stop],
        opt mark],
    absent blockStart ++ expression ++ oneOf [mark, stop]]

def localBinding : RustRule :=
  word "let" ++ call .singlePattern ++ opt (colon ++ type) ++
    opt (equals ++ expression ++ opt (word "else" ++ call .block)) ++ sign ";"

def macroStatement : RustRule :=
  plainPath ++ signBut "!" ["!="] ++ groupOf .brace ++
    absent continuation ++ opt (sign ";")

/-- A statement that starts with an attribute or a word of its own. -/
def statementRule : RustRule :=
  oneOf [sign ";",
    outerAttributes ++ oneOf [macroStatement, localBinding],
    call .item,
    absent (outerAttributes ++ word "let") ++ closedBy (sign ";")]

def armRule : RustRule :=
  outerAttributes ++ call .pattern ++ opt (word "if" ++ expression) ++ sign "=>" ++ closedBy comma

/-! ### The grammar -/

/-- The rule of each name. -/
def grammar : Grammar Name RustToken
  | .outerAttribute => sign "#" ++ absent (sign "!") ++ bracket attributeContent
  | .innerAttribute => sign "#" ++ sign "!" ++ bracket attributeContent
  | .file => innerAttributes ++ many (call .item) ++ stop
  | .item => outerAttributes ++ itemRule
  | .useItem => word "use" ++ opt pathSeparator ++ call .useTree ++ sign ";"
  | .useTree => useTreeRule
  | .looseTree => looseTreeRule
  | .structItem => structRule
  | .aliasItem => aliasRule
  | .traitItem => traitRule
  | .functionItem => call .signature ++ call .body
  | .implItem => implRule
  | .moduleItem => moduleRule
  | .enumItem =>
    word "enum" ++ ident ++ generics ++ whereClause ++ brace (commas (call .variant))
  | .otherItem => otherItemRule
  | .unread => oneOf [unreadRule, unreadMember]
  | .visibility => visibilityRule
  | .signature => signatureRule
  | .body => brace (innerAttributes ++ many (call .statement))
  | .field => outerAttributes ++ visibility ++ oneOf [ident, word "_"] ++ colon ++ type
  | .tupleField => outerAttributes ++ visibility ++ type
  | .parameter => parameterRule
  | .variant => variantRule
  | .implMember => implMemberRule
  | .traitMember => traitMemberRule
  | .foreignMember => foreignMemberRule
  | .type joined => typeRule joined
  | .pathType => typePath
  | .groupType =>
    paren (oneOf [ahead (oneOf [lifetime, sign "?"]) ++ call .bounds, commas type])
  | .boundType joined =>
    let bounds := if joined then call .bounds else bound
    oneOf [word "dyn" ++ absent (sign "*"), word "impl", ahead lifetime] ++ boundsTrait joined ++
      bounds
  | .arrayType => bracket (type ++ opt (sign ";" ++ expression))
  | .referenceType => sign "&" ++ opt lifetime ++ opt (word "mut") ++ narrowType
  | .functionType => functionType
  | .otherType =>
    oneOf [sign "*" ++ words ["const", "mut"] ++ narrowType, signBut "!" ["!="], word "_",
      word "dyn" ++ sign "*" ++ boundsTrait true ++ call .bounds, typePath]
  | .segment => typeSegment
  | .argument =>
    oneOf [lifetime ++ absent (sign "+"), opt (sign "-") ++ literal, call .block,
      type ++ opt (oneOf [colonBounds,
        equals ++ oneOf [opt (sign "-") ++ literal, call .block, type]])]
  | .furtherBounds => sign "+" ++ opt bound ++ many (sign "+" ++ opt bound)
  | .outerLifetimes => forLifetimes
  | .bounds => someBounds
  | .generics => genericsRule
  | .whereClause => word "where" ++ commas wherePredicate
  | .pattern => patternRule
  | .singlePattern => singlePatternRule
  | .expression bare => call (.operand bare) ++ expressionRest bare
  | .operand bare => operandRule bare
  | .operands bare => call (.operand bare) ++ comparison bare
  | .range bare => call (.operands bare) ++ many (logicSign ++ call (.operands bare))
  | .trailer => trailerRule
  | .blockLike => blockLikeRule
  | .block => brace (many (call .statement))
  | .innerBlock => brace (innerAttributes ++ many (call .statement))
  | .statement => statementRule
  | .arm => armRule
  | .path => pathRule

end RustGrammar

end ApiScribe
