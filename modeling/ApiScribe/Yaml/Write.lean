import ApiScribe.Node
import ApiScribe.Yaml.Scalar

/-!
YAML text in block style: two columns for each level, lists on the column of their key.
-/

namespace ApiScribe.Yaml

/-- Whether a text can stand before a colon on one line. -/
def isSimpleKey (s : String) : Bool := !s.toList.any isBreak && s.utf8ByteSize ≤ 128

def simpleKey (column : Nat) (s : String) : List Char := (scalar column s).dropLast

mutual

/-- What follows the key or the dash that introduces a node, up to and with the end of the line.
`column` is that of the key; `inline` tells that a list or a field may follow on the same line. -/
def value (column : Nat) (inline : Bool) : Node → List Char
  | .text s => ' ' :: scalar (column + 2) s
  | .int n => ' ' :: (toString n).toList ++ ['\n']
  | .flag b => ' ' :: (toString b).toList ++ ['\n']
  | .variant name s => ' ' :: '!' :: name.toList ++ ' ' :: scalar (column + 2) s
  | .list [] => " []\n".toList
  | .list ns => if inline then ' ' :: items (column + 2) true ns else '\n' :: items column false ns
  | .fields [] => " \x7b\x7d\n".toList
  | .fields es =>
    if inline then ' ' :: entries (column + 2) true es else '\n' :: entries (column + 2) false es

/-- The items of a list; `started` tells that the first line has been padded. -/
def items (column : Nat) (started : Bool) : List Node → List Char
  | [] => []
  | n :: ns =>
    (if started then [] else pad column) ++ '-' :: value column true n ++ items column false ns

/-- The fields of a node; `started` tells that the first line has been padded.  A key that is too
long or has several lines stands behind a question mark. -/
def entries (column : Nat) (started : Bool) : List (String × Node) → List Char
  | [] => []
  | (k, n) :: es =>
    (if started then [] else pad column) ++
      (if isSimpleKey k then simpleKey (column + 2) k ++ ':' :: value column false n
      else '?' :: ' ' :: scalar (column + 2) k ++ pad column ++ ':' :: value column true n) ++
      entries column false es

end

def document : Node → List Char
  | .fields (e :: es) => entries 0 false (e :: es)
  | .list (n :: ns) => items 0 false (n :: ns)
  | n => (value 0 false n).drop 1

def text (n : Node) : String := String.ofList (document n)

end ApiScribe.Yaml
