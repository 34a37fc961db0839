import ApiScribe.Pattern.CharClass
import ApiScribe.Text.PropertyTable
import ApiScribe.Text.ScriptTable

/-!
Classes of characters that a pattern names by what the Unicode character database says of them: by a
general category, by a script, or by a property that a character has or has not.
-/

namespace ApiScribe.Pattern

/-- A name without case, blanks and joints, and without `is` in front. -/
def looseName (cs : List Char) : String :=
  let (cut, cs) := match cs.map Char.toLower with
    | 'i' :: 's' :: cs => (true, cs)
    | cs => (false, cs)
  let kept := cs.filter fun c => c.toNat < 0x80 && !(c == ' ' || c == '_' || c == '-')
  if cut && kept == ['c'] then "isc" else String.ofList kept

/-! ### Categories and scripts -/

/-- The names of general categories and their groups, with the categories they stand for. -/
def categoryNames : List (List String × List String) :=
  [(["l", "letter"], ["Lu", "Ll", "Lt", "Lm", "Lo"]),
    (["lc", "casedletter"], ["Lu", "Ll", "Lt"]),
    (["lu", "uppercaseletter"], ["Lu"]), (["ll", "lowercaseletter"], ["Ll"]),
    (["lt", "titlecaseletter"], ["Lt"]), (["lm", "modifierletter"], ["Lm"]),
    (["lo", "otherletter"], ["Lo"]),
    (["m", "mark", "combiningmark"], ["Mn", "Mc", "Me"]),
    (["mn", "nonspacingmark"], ["Mn"]), (["mc", "spacingmark"], ["Mc"]),
    (["me", "enclosingmark"], ["Me"]),
    (["n", "number"], ["Nd", "Nl", "No"]), (["nd", "decimalnumber", "digit"], ["Nd"]),
    (["nl", "letternumber"], ["Nl"]), (["no", "othernumber"], ["No"]),
    (["p", "punctuation", "punct"], ["Pc", "Pd", "Ps", "Pe", "Pi", "Pf", "Po"]),
    (["pc", "connectorpunctuation"], ["Pc"]), (["pd", "dashpunctuation"], ["Pd"]),
    (["ps", "openpunctuation"], ["Ps"]), (["pe", "closepunctuation"], ["Pe"]),
    (["pi", "initialpunctuation"], ["Pi"]), (["pf", "finalpunctuation"], ["Pf"]),
    (["po", "otherpunctuation"], ["Po"]),
    (["s", "symbol"], ["Sm", "Sc", "Sk", "So"]), (["sm", "mathsymbol"], ["Sm"]),
    (["sc", "currencysymbol"], ["Sc"]), (["sk", "modifiersymbol"], ["Sk"]),
    (["so", "othersymbol"], ["So"]),
    (["z", "separator"], ["Zs", "Zl", "Zp"]), (["zs", "spaceseparator"], ["Zs"]),
    (["zl", "lineseparator"], ["Zl"]), (["zp", "paragraphseparator"], ["Zp"]),
    (["cc", "control", "cntrl"], ["Cc"]), (["cf", "format"], ["Cf"]),
    (["co", "privateuse"], ["Co"])]

def categories (names : List String) : CharClass := .ranges (Text.Category.union names)

/-- The characters with a category other than that of all the rest. -/
def assigned : CharClass := .ranges (Text.Category.table.flatMap Prod.snd)

def categoryClass? : String → Option CharClass
  | "any" => some (.ranges [(0, 0x10FFFF)])
  | "ascii" => some (.ranges [(0, 0x7F)])
  | "assigned" => some assigned
  | "cn" | "unassigned" => some (.complement assigned)
  | "c" | "other" => some (.union (categories ["Cc", "Cf", "Co"]) (.complement assigned))
  | key => (categoryNames.find? fun row => row.1.contains key).map fun row => categories row.2

def scriptClass? (key : String) : Option CharClass :=
  (Text.Ranges.named? Text.Script.rows key).map .ranges

/-- The characters that a script makes use of. -/
def scriptExtensionClass? (key : String) : Option CharClass :=
  (Text.Script.rows.find? fun row => row.1.contains key).map fun (names, lines) =>
    let shared := (names.head?.bind fun name => List.lookup name Text.Script.sharedRows).getD []
    .union (.without (.ranges (.ofTable lines)) (.ranges (.ofTable Text.Script.takenRows)))
      (.ranges (.ofTable shared))

/-! ### Properties -/

/-- A property that does not follow from others. -/
def listed? (key : String) : Option CharClass :=
  (Text.Ranges.named? Text.Property.rows key).map .ranges

def listed (key : String) : CharClass := (listed? key).getD .none

def alphabetic : CharClass :=
  .union (categories ["Lu", "Ll", "Lt", "Lm", "Lo", "Nl"]) (listed "otheralphabetic")

def lowercase : CharClass := .union (categories ["Ll"]) (listed "otherlowercase")

def uppercase : CharClass := .union (categories ["Lu"]) (listed "otheruppercase")

/-- The characters that have a lower case. -/
def lowered : CharClass :=
  .without (.union uppercase (categories ["Lt"])) (.ranges (.ofTable Text.Property.unloweredRows))

/-- The characters that have an upper case. -/
def raised : CharClass :=
  .without (.union lowercase (categories ["Lt"])) (.ranges (.ofTable Text.Property.unraisedRows))

/-- The characters that have a title case: letters that are two in one have one even in upper case,
and none in title case. -/
def titled : CharClass :=
  .union (.ranges [(0x1C4, 0x1C4), (0x1C7, 0x1C7), (0x1CA, 0x1CA), (0x1F1, 0x1F1)])
    (.without (.without raised (categories ["Lt"])) (.ranges [(0x10D0, 0x10FA), (0x10FD, 0x10FF)]))

/-- The characters that another one stands for when case is ignored. -/
def refolded : CharClass :=
  .union (.ranges (.ofTable Text.Property.refoldedRows))
    (.without lowered (.ranges [(0x13A0, 0x13F5)]))

def graphemeExtend : CharClass :=
  .union (categories ["Me", "Mn"]) (listed "othergraphemeextend")

/-- The characters that are signs of patterns, or blanks. -/
def patternSigns : CharClass := .union (listed "patternsyntax") (listed "patternwhitespace")

def idStart : CharClass :=
  .without (.union (categories ["Lu", "Ll", "Lt", "Lm", "Lo", "Nl"]) (listed "otheridstart"))
    patternSigns

def xidStart : CharClass :=
  .without (.ranges Text.identifierStartRanges) (.ranges Text.excludedStartRanges)

/-- A property that follows from others. -/
def derived? : String → Option CharClass
  | "alphabetic" | "alpha" => some alphabetic
  | "lowercase" | "lower" => some lowercase
  | "uppercase" | "upper" => some uppercase
  | "cased" => some (.union (.union lowercase uppercase) (categories ["Lt"]))
  | "caseignorable" | "ci" =>
    some (.union (categories ["Mn", "Me", "Cf", "Lm", "Sk"])
      (.ranges (.ofTable Text.Property.midWordRows)))
  | "changeswhenlowercased" | "cwl" => some lowered
  | "changeswhenuppercased" | "cwu" => some raised
  | "changeswhentitlecased" | "cwt" => some titled
  | "changeswhencasefolded" | "cwcf" => some refolded
  | "changeswhencasemapped" | "cwcm" => some (.union lowered (.union raised titled))
  | "math" => some (.union (categories ["Sm"]) (listed "othermath"))
  | "graphemeextend" | "grext" => some graphemeExtend
  | "graphemebase" | "grbase" =>
    some (.without assigned (.union (categories ["Cc", "Cf", "Co", "Zl", "Zp"]) graphemeExtend))
  | "idstart" | "ids" => some idStart
  | "idcontinue" | "idc" =>
    some (.without
      (.union idStart (.union (categories ["Mn", "Mc", "Nd", "Pc"]) (listed "otheridcontinue")))
      patternSigns)
  | "xidstart" | "xids" => some xidStart
  | "xidcontinue" | "xidc" => some (.union xidStart (.ranges Text.identifierRestRanges))
  | "whitespace" | "wspace" | "space" => some .blank
  | _ => none

/-! ### Names of properties -/

/-- The class with a name of its own.  The names of three categories are short for properties with
values too. -/
def propertyClass? (name : List Char) : Option CharClass :=
  let key := looseName name
  if key = "cf" ∨ key = "sc" ∨ key = "lc" then categoryClass? key
  else derived? key <|> listed? key <|> categoryClass? key <|> scriptClass? key

/-- The class of the characters for which a property has a value. -/
def valueClass? (property value : List Char) : Option CharClass :=
  let key := looseName value
  match looseName property with
  | "gc" | "generalcategory" => categoryClass? key
  | "sc" | "script" => scriptClass? key
  | "scx" | "scriptextensions" => scriptExtensionClass? key
  | _ => none

end ApiScribe.Pattern
