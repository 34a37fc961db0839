import ApiScribe.Json.Basic

/-!
JSON text: one member or item a line, two spaces for each level.
-/

namespace ApiScribe.Json

/-- A digit of a hexadecimal number, in lower case. -/
def hexChar (n : Nat) : Char :=
  if n < 10 then Char.ofNat (0x30 + n) else Char.ofNat (0x57 + n)

/-- A character inside a string.  Quotes, backslashes and control characters are escaped, all other
characters stand for themselves. -/
def escapeChar (c : Char) : List Char :=
  if c = '"' then ['\\', '"']
  else if c = '\\' then ['\\', '\\']
  else if c = '\n' then ['\\', 'n']
  else if c = '\r' then ['\\', 'r']
  else if c = '\t' then ['\\', 't']
  else if c.toNat = 8 then ['\\', 'b']
  else if c.toNat = 12 then ['\\', 'f']
  else if c.toNat < 0x20 then ['\\', 'u', '0', '0', hexChar (c.toNat / 16), hexChar (c.toNat % 16)]
  else [c]

def quote (s : String) : List Char := '"' :: s.toList.flatMap escapeChar ++ ['"']

/-- The start of a line on the given level. -/
def newline (level : Nat) : List Char := '\n' :: List.replicate (2 * level) ' '

mutual

/-- The text of a value on the given level. -/
def pretty (level : Nat) : Json → List Char
  | null => "null".toList
  | bool true => "true".toList
  | bool false => "false".toList
  | int n => (toString n).toList
  | decimal text => text.toList
  | str s => quote s
  | arr [] => ['[', ']']
  | arr (j :: js) =>
    '[' :: newline (level + 1) ++ pretty (level + 1) j ++ prettyItems (level + 1) js ++
      newline level ++ [']']
  | obj [] => ['\x7b', '\x7d']
  | obj ((k, j) :: ms) =>
    '\x7b' :: newline (level + 1) ++ quote k ++ ':' :: ' ' :: pretty (level + 1) j ++
      prettyMembers (level + 1) ms ++ newline level ++ ['\x7d']

/-- The items behind the first one. -/
def prettyItems (level : Nat) : List Json → List Char
  | [] => []
  | j :: js => ',' :: newline level ++ pretty level j ++ prettyItems level js

/-- The members behind the first one. -/
def prettyMembers (level : Nat) : List (String × Json) → List Char
  | [] => []
  | (k, j) :: ms =>
    ',' :: newline level ++ quote k ++ ':' :: ' ' :: pretty level j ++ prettyMembers level ms

end

def text (j : Json) : String := String.ofList (pretty 0 j)

end ApiScribe.Json
