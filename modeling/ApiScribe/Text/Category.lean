import ApiScribe.Text.CategoryTable
import ApiScribe.Text.Table

/-!
Classes of characters: the general categories and their groups, and the classes built from them
that words, digits and identifiers are made of.
-/

namespace ApiScribe.Text

namespace Category

/-- The general categories by their short names. -/
def table : List (String × Ranges) := rows.map fun (name, lines) => (name, .ofTable lines)

def union (names : List String) : Ranges :=
  table.flatMap fun (name, rs) => if names.contains name then rs else []

end Category

def letterRanges : Ranges := Category.union ["Lu", "Ll", "Lt", "Lm", "Lo"]

def digitRanges : Ranges := Category.union ["Nd"]

/-- Letters, letter-like symbols, marks, digits, connectors and joiners. -/
def wordRanges : Ranges :=
  letterRanges ++ Category.union ["Nl", "Mn", "Mc", "Me", "Nd", "Pc"] ++
    [(0x200C, 0x200D), (0x24B6, 0x24E9), (0x1F130, 0x1F149), (0x1F150, 0x1F169), (0x1F170, 0x1F189)]

/-- Letters of other categories that may start an identifier. -/
def otherStartRanges : Ranges :=
  [(0x1885, 0x1886), (0x2118, 0x2118), (0x212E, 0x212E)]

/-- Letters that may not start an identifier. -/
def excludedStartRanges : Ranges :=
  [(0x37A, 0x37A), (0xE33, 0xE33), (0xEB3, 0xEB3), (0x2E2F, 0x2E2F), (0xFC5E, 0xFC63),
    (0xFDFA, 0xFDFB), (0xFE70, 0xFE70), (0xFE72, 0xFE72), (0xFE74, 0xFE74), (0xFE76, 0xFE76),
    (0xFE78, 0xFE78), (0xFE7A, 0xFE7A), (0xFE7C, 0xFE7C), (0xFE7E, 0xFE7E), (0xFF9E, 0xFF9F)]

def identifierStartRanges : Ranges :=
  letterRanges ++ Category.union ["Nl"] ++ otherStartRanges

/-- Characters that may stand in an identifier, besides those that may start one. -/
def identifierRestRanges : Ranges :=
  Category.union ["Mn", "Mc", "Nd", "Pc"] ++
    [(0xB7, 0xB7), (0x387, 0x387), (0xE33, 0xE33), (0xEB3, 0xEB3), (0x1369, 0x1371),
      (0x19DA, 0x19DA), (0xFF9E, 0xFF9F)]

def isDigit (c : Char) : Bool :=
  if c.toNat < 0x80 then c.isDigit else digitRanges.has c

/-- A character of a word: a letter, a digit, a mark, a connector or a joiner. -/
def isWordChar (c : Char) : Bool :=
  if c.toNat < 0x80 then c.isAlphanum || c == '_' else wordRanges.has c

def isIdentifierStart (c : Char) : Bool :=
  if c.toNat < 0x80 then c.isAlpha || c == '_'
  else identifierStartRanges.has c && !excludedStartRanges.has c

/-- A character that may follow the first of an identifier. -/
def isIdentifierRest (c : Char) : Bool :=
  if c.toNat < 0x80 then c.isAlphanum || c == '_'
  else isIdentifierStart c || identifierRestRanges.has c

end ApiScribe.Text
