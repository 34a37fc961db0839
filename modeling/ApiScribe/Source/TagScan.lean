import ApiScribe.Source.StructTag

/-!
Struct tags scanned in place.  `StructTag.lookup` takes a tag apart into its pairs.  Here one value is
looked for by offsets in bytes: the text stays as it is, a closing quote is found among its bytes, and
the parts are cut out of it.  A cut must begin and end between two characters; otherwise there is no
answer at all.
-/

namespace ApiScribe.StructTag

/-- The text between two offsets in bytes, if both are between characters of the text or at its
ends. -/
def slice? (s : String) (start stop : Nat) : Option String :=
  if h : (⟨start⟩ : String.Pos.Raw).IsValid s ∧ (⟨stop⟩ : String.Pos.Raw).IsValid s ∧ start ≤ stop then
    some (s.extract (s.pos ⟨start⟩ h.1) (s.pos ⟨stop⟩ h.2.1))
  else none

/-- The offset of the closing quote from `i` on, where a backslash takes the next byte with it; past
the last byte if there is no closing quote. -/
def closing (bytes : List UInt8) (i : Nat) : Nat :=
  if h : i < bytes.length then
    if bytes[i] = '"'.toUInt8 then i
    else if bytes[i] = '\\'.toUInt8 then closing bytes (i + 2)
    else closing bytes (i + 1)
  else i
termination_by bytes.length - i

/-- What is known after one pair has been scanned: the answer, or the text to go on with. -/
inductive Turn where
  | answer (value : Option String)
  | onward (rest : String)
  deriving DecidableEq, Repr

/-- Scans the value of the pair whose name ends at an offset; a colon and a quote follow the name. -/
def turnValue (key text : String) (nameEnd : Nat) : Option Turn := do
  let name ← slice? text 0 nameEnd
  let valueStart := nameEnd + 2
  let valueEnd := closing text.toByteArray.data.toList valueStart
  if text.utf8ByteSize ≤ valueEnd then
    return .answer none
  if name = key then
    let value ← slice? text valueStart valueEnd
    return .answer (some value)
  let rest ← slice? text (valueEnd + 1) text.utf8ByteSize
  return .onward rest

def turn (key text : String) : Option Turn := do
  let text := String.ofList (text.toList.dropWhile (· == ' '))
  if text = "" then
    return .answer none
  let nameEnd := (String.ofList (text.toList.takeWhile isKeyChar)).utf8ByteSize
  if nameEnd = 0 then
    return .answer none
  let behind ← slice? text nameEnd text.utf8ByteSize
  if !(":\"".toList.isPrefixOf behind.toList) then
    return .answer none
  turnValue key text nameEnd

/-- Scanning a text for a key comes to an end with an answer. -/
inductive Answers (key : String) : String → Option String → Prop
  | answer {text : String} {value : Option String} (h : turn key text = some (.answer value)) :
      Answers key text value
  | onward {text rest : String} {value : Option String} (h : turn key text = some (.onward rest))
      (hrest : Answers key rest value) : Answers key text value

end ApiScribe.StructTag
