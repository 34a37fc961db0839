import ApiScribe.Source.TagScan
import Mathlib.Data.List.TakeWhile

/-!
# Looking up struct tags

* `Pair`, `render` — the conventional form of a tag: pairs `key:"value"` with any number of spaces
  before, between and behind them;
* `pairs_render` — taking such a tag apart gives its pairs back;
* `turn_eq` — scanning in place, by offsets in bytes, cuts between characters only and does in each
  turn what `readPair` does;
* `lookup_render` — what is looked up in a tag of the conventional form, and that the scan of any text
  comes to an end.
-/

namespace ApiScribe.StructTag

/-! ### Pairs -/

/-- The raw text of a value: quotes stand behind a backslash, and something stands behind each
backslash that is not itself behind one. -/
inductive Escaped : List Char → Prop
  | nil : Escaped []
  | plain {c : Char} {cs : List Char} (hquote : c ≠ '"') (hback : c ≠ '\\') (h : Escaped cs) :
      Escaped (c :: cs)
  | taken {c : Char} {cs : List Char} (h : Escaped cs) : Escaped ('\\' :: c :: cs)

/-- Whether a text may be the raw text of a value. -/
def isEscaped : List Char → Bool
  | [] => true
  | '\\' :: _ :: cs => isEscaped cs
  | c :: cs => c != '"' && c != '\\' && isEscaped cs

theorem escaped_iff {cs : List Char} : Escaped cs ↔ isEscaped cs := by
  constructor
  · intro h
    induction h with
    | nil => rfl
    | plain hquote hback _ ih =>
      rw [isEscaped]
      · simp [hquote, hback, ih]
      · exact fun _ _ hc _ => hback hc
    | taken _ ih => exact ih
  · intro h
    induction cs using isEscaped.induct with
    | case1 => exact .nil
    | case2 c cs ih => exact .taken (ih h)
    | case3 c cs hback ih =>
      rw [isEscaped] at h
      · simp only [Bool.and_eq_true, bne_iff_ne] at h
        exact .plain h.1.1 h.1.2 (ih h.2)
      · exact hback

instance (cs : List Char) : Decidable (Escaped cs) := decidable_of_iff _ escaped_iff.symm

/-- A key with the raw text of its value. -/
structure Pair where
  key : String
  value : String
  key_ne : key ≠ ""
  keyChar : ∀ c ∈ key.toList, ' ' < c ∧ c ≠ ':' ∧ c ≠ '"' ∧ c ≠ '\x7f'
  escaped : Escaped value.toList

def Pair.chars (p : Pair) : List Char := p.key.toList ++ ':' :: '"' :: (p.value.toList ++ ['"'])

/-- Some pairs, each behind a number of spaces, and the spaces behind the last one. -/
def renderChars (ps : List (ℕ × Pair)) (behind : ℕ) : List Char :=
  ps.flatMap (fun (n, p) => List.replicate n ' ' ++ p.chars) ++ List.replicate behind ' '

/-- A tag of the conventional form. -/
def render (ps : List (ℕ × Pair)) (behind : ℕ) : String := String.ofList (renderChars ps behind)

/-- A character that is neither a quote nor a backslash in front of another belongs to the value. -/
theorem readValue_cons {c : Char} {cs : List Char} (hquote : c ≠ '"')
    (hback : ∀ c' cs', c = '\\' → cs = c' :: cs' → False) :
    readValue (c :: cs) = (readValue cs).map (Prod.map (List.cons c) id) := by
  rw [readValue]
  · rfl
  · exact hquote
  · exact hback

theorem readValue_append {v : List Char} (h : Escaped v) (rest : List Char) :
    readValue (v ++ '"' :: rest) = some (v, rest) := by
  induction h with
  | nil => rfl
  | @plain c cs hquote hback h ih =>
    rw [List.cons_append, readValue_cons hquote fun _ _ hc _ => hback hc, ih]
    rfl
  | @taken c cs h ih =>
    rw [List.cons_append, List.cons_append, readValue, ih]
    rfl

theorem eq_of_readValue {cs v rest : List Char} (h : readValue cs = some (v, rest)) :
    cs = v ++ '"' :: rest := by
  induction cs using readValue.induct generalizing v with
  | case1 => cases h
  | case2 cs =>
    cases h
    rfl
  | case3 c cs ih =>
    obtain ⟨⟨w, r⟩, hread, heq⟩ := Option.map_eq_some_iff.mp h
    cases heq
    rw [ih hread]
    rfl
  | case4 c cs hquote hback ih =>
    rw [readValue] at h
    · obtain ⟨⟨w, r⟩, hread, heq⟩ := Option.map_eq_some_iff.mp h
      cases heq
      rw [ih hread]
      rfl
    · exact hquote
    · exact hback

/-- A pair is read from the front of the text that is left when it is taken off. -/
theorem eq_of_readPair {cs key value rest : List Char}
    (h : readPair cs = some ((key, value), rest)) :
    key ≠ [] ∧ cs.dropWhile (· == ' ') = key ++ ':' :: '"' :: (value ++ '"' :: rest) := by
  unfold readPair at h
  dsimp only at h
  split at h
  · cases h
  · rename_i hne
    split at h
    · rename_i r hdrop
      obtain ⟨⟨v, r'⟩, hread, heq⟩ := Option.map_eq_some_iff.mp h
      cases heq
      have hsplit := List.takeWhile_append_dropWhile (p := isKeyChar) (l := cs.dropWhile (· == ' '))
      rw [hdrop, eq_of_readValue hread] at hsplit
      exact ⟨by simpa using hne, hsplit.symm⟩
    · cases h

theorem length_of_readPair {cs rest : List Char} {pair : List Char × List Char}
    (h : readPair cs = some (pair, rest)) : rest.length < cs.length := by
  obtain ⟨-, heq⟩ := eq_of_readPair h
  have hdrop := (List.dropWhile_sublist (l := cs) (· == ' ')).length_le
  rw [heq] at hdrop
  simp at hdrop
  omega

/-- The number of pairs that are looked for is never reached. -/
theorem readPairs_congr {n m : ℕ} {cs : List Char} (hn : cs.length ≤ n) (hm : cs.length ≤ m) :
    readPairs n cs = readPairs m cs := by
  induction n generalizing m cs with
  | zero =>
    have hnil : cs = [] := by simpa using hn
    subst hnil
    cases m with
    | zero => rfl
    | succ m => rfl
  | succ n ih =>
    cases m with
    | zero =>
      have hnil : cs = [] := by simpa using hm
      subst hnil
      rfl
    | succ m =>
      unfold readPairs
      cases hread : readPair cs with
      | none => rfl
      | some found =>
        have hlength := length_of_readPair hread
        have hrest : readPairs n found.2 = readPairs m found.2 := ih (by omega) (by omega)
        simp only [hrest]

theorem pairs_of_none {cs : List Char} (h : readPair cs = none) : pairs cs = [] := by
  unfold pairs
  cases cs with
  | nil => rfl
  | cons c cs => rw [List.length_cons, readPairs, h]

theorem pairs_of_some {cs rest : List Char} {pair : List Char × List Char}
    (h : readPair cs = some (pair, rest)) : pairs cs = pair :: pairs rest := by
  have hlength := length_of_readPair h
  unfold pairs
  cases cs with
  | nil => cases h
  | cons c cs =>
    rw [List.length_cons, readPairs, h]
    dsimp only
    rw [readPairs_congr (by simpa using Nat.le_of_lt_succ hlength) le_rfl]

/-! ### The conventional form -/

theorem Pair.isKeyChar (p : Pair) : ∀ c ∈ p.key.toList, isKeyChar c = true := by
  intro c hc
  obtain ⟨hblank, hcolon, hquote, hdelete⟩ := p.keyChar c hc
  simp [StructTag.isKeyChar, hblank, hcolon, hquote, hdelete]

theorem dropWhile_spaces (n : ℕ) (cs : List Char) :
    (List.replicate n ' ' ++ cs).dropWhile (· == ' ') = cs.dropWhile (· == ' ') := by
  apply List.dropWhile_append_of_pos
  intro c hc
  simp [List.eq_of_mem_replicate hc]

theorem Pair.readPair (p : Pair) (n : ℕ) (rest : List Char) :
    readPair (List.replicate n ' ' ++ p.chars ++ rest) =
      some ((p.key.toList, p.value.toList), rest) := by
  have hkey : p.key.toList ≠ [] := by simpa using p.key_ne
  have hdrop : (List.replicate n ' ' ++ p.chars ++ rest).dropWhile (· == ' ') =
      p.key.toList ++ ':' :: '"' :: (p.value.toList ++ '"' :: rest) := by
    have hchars : p.chars ++ rest =
        p.key.toList ++ ':' :: '"' :: (p.value.toList ++ '"' :: rest) := by simp [Pair.chars]
    rw [List.append_assoc, dropWhile_spaces, hchars]
    obtain ⟨c, cs, hcons⟩ := List.exists_cons_of_ne_nil hkey
    have hc : ' ' < c := (p.keyChar c (by simp [hcons])).1
    have hspace : c ≠ ' ' := by
      rintro rfl
      exact absurd hc (by decide)
    rw [hcons, List.cons_append, List.dropWhile_cons_of_neg (by simpa using hspace)]
  have hcolon : ¬ StructTag.isKeyChar ':' = true := by decide
  unfold StructTag.readPair
  dsimp only
  rw [hdrop, List.takeWhile_append_of_pos p.isKeyChar, List.dropWhile_append_of_pos p.isKeyChar,
    List.takeWhile_cons_of_neg hcolon, List.dropWhile_cons_of_neg hcolon, List.append_nil,
    if_neg (by simpa using hkey)]
  show (readValue (p.value.toList ++ '"' :: rest)).map _ = _
  rw [readValue_append p.escaped]
  rfl

theorem readPair_spaces (n : ℕ) : readPair (List.replicate n ' ') = none := by
  have hdrop : (List.replicate n ' ').dropWhile (· == ' ') = [] := by simp
  unfold readPair
  rw [hdrop]
  rfl

/-- **A tag of the conventional form consists of its pairs.** -/
theorem pairs_render (ps : List (ℕ × Pair)) (behind : ℕ) :
    pairs (renderChars ps behind) = ps.map fun p => (p.2.key.toList, p.2.value.toList) := by
  unfold renderChars
  induction ps with
  | nil => exact pairs_of_none (readPair_spaces behind)
  | cons p ps ih =>
    have hread := p.2.readPair p.1
      (ps.flatMap (fun (n, p) => List.replicate n ' ' ++ p.chars) ++ List.replicate behind ' ')
    rw [List.flatMap_cons, List.append_assoc, pairs_of_some hread, ih, List.map_cons]

theorem lookup_pairs (ps : List (ℕ × Pair)) (key : String) :
    ((ps.map fun p => (p.2.key.toList, p.2.value.toList)).lookup key.toList).map String.ofList =
      (ps.find? fun p => p.2.key = key).map fun p => p.2.value := by
  induction ps with
  | nil => rfl
  | cons p ps ih =>
    by_cases h : p.2.key = key
    · simp [h]
    · have hne : ¬ key.toList = p.2.key.toList := fun heq => h (String.toList_inj.mp heq).symm
      have hbeq : (key.toList == p.2.key.toList) = false := by simpa using hne
      rw [List.map_cons, List.lookup_cons, hbeq, List.find?_cons_of_neg (by simpa using h)]
      exact ih

/-! ### Cuts between characters -/

theorem slice?_append (a b c : String) :
    slice? (a ++ b ++ c) a.utf8ByteSize (a.utf8ByteSize + b.utf8ByteSize) = some b := by
  have hstart : (⟨a.utf8ByteSize⟩ : String.Pos.Raw).IsValid (a ++ b ++ c) :=
    String.Pos.Raw.isValid_iff_exists_append.mpr ⟨a, b ++ c, String.append_assoc, rfl⟩
  have hstop : (⟨a.utf8ByteSize + b.utf8ByteSize⟩ : String.Pos.Raw).IsValid (a ++ b ++ c) := by
    refine String.Pos.Raw.isValid_iff_exists_append.mpr ⟨a ++ b, c, rfl, ?_⟩
    simp [String.Pos.Raw.ext_iff]
  have hcut : ∀ p q : (a ++ b ++ c).Pos, p.offset.byteIdx = a.utf8ByteSize →
      q.offset.byteIdx = a.utf8ByteSize + b.utf8ByteSize → (a ++ b ++ c).extract p q = b := by
    intro p q hp hq
    apply String.toByteArray_inj.mp
    rw [String.toByteArray_extract, hp, hq, String.toByteArray_append, String.toByteArray_append,
      ByteArray.append_assoc, ← String.size_toByteArray, ← String.size_toByteArray]
    have hskip := ByteArray.extract_append_size_add (a := a.toByteArray)
      (b := b.toByteArray ++ c.toByteArray) (i := 0) (j := b.toByteArray.size)
    rw [Nat.add_zero] at hskip
    rw [hskip, ByteArray.extract_append_eq_left rfl]
  unfold slice?
  rw [dif_pos ⟨hstart, hstop, Nat.le_add_right _ _⟩, hcut]
  · rfl
  · rfl

/-! ### Bytes -/

def bytesOf (cs : List Char) : List UInt8 := cs.flatMap String.utf8EncodeChar

theorem bytesOf_append (cs ds : List Char) : bytesOf (cs ++ ds) = bytesOf cs ++ bytesOf ds :=
  List.flatMap_append

/-- A byte that is neither a quote nor a backslash. -/
def PlainByte (b : UInt8) : Prop := b ≠ '"'.toUInt8 ∧ b ≠ '\\'.toUInt8

/-- The bytes of a character are its own number, or they lie above all of ASCII. -/
theorem utf8EncodeChar_cases (c : Char) :
    (String.utf8EncodeChar c = [UInt8.ofNat c.toNat] ∧ c.toNat < 0x80) ∨
      ∀ b ∈ String.utf8EncodeChar c, 0x80 ≤ b.toNat := by
  have hv : c.val.toNat = c.toNat := rfl
  unfold String.utf8EncodeChar
  dsimp only
  rw [hv]
  split
  · rename_i hsmall
    exact Or.inl ⟨rfl, by omega⟩
  · right
    intro b hb
    split at hb
    · simp at hb
      rcases hb with rfl | rfl <;> simp <;> omega
    · split at hb
      · simp at hb
        rcases hb with rfl | rfl | rfl <;> simp <;> omega
      · simp at hb
        rcases hb with rfl | rfl | rfl | rfl <;> simp <;> omega

theorem PlainByte.of_le {b : UInt8} (h : 0x80 ≤ b.toNat) : PlainByte b := by
  constructor
  · rintro rfl
    exact absurd h (by decide)
  · rintro rfl
    exact absurd h (by decide)

theorem plainByte_tail (c : Char) : ∀ b ∈ (String.utf8EncodeChar c).tail, PlainByte b := by
  intro b hb
  rcases utf8EncodeChar_cases c with ⟨heq, -⟩ | habove
  · rw [heq] at hb
    cases hb
  · exact PlainByte.of_le (habove b (List.mem_of_mem_tail hb))

theorem plainByte_of_mem {c : Char} (hquote : c ≠ '"') (hback : c ≠ '\\') :
    ∀ b ∈ String.utf8EncodeChar c, PlainByte b := by
  intro b hb
  rcases utf8EncodeChar_cases c with ⟨heq, hsmall⟩ | habove
  · rw [heq, List.mem_singleton] at hb
    have hnat : b.toNat = c.toNat := by
      rw [hb, UInt8.toNat_ofNat']
      omega
    constructor
    · intro hb'
      have hc : c.toNat = '"'.toNat := by rw [← hnat, hb']; rfl
      exact hquote (Char.toNat_inj.mp hc)
    · intro hb'
      have hc : c.toNat = '\\'.toNat := by rw [← hnat, hb']; rfl
      exact hback (Char.toNat_inj.mp hc)
  · exact PlainByte.of_le (habove b hb)

/-! ### The closing quote -/

variable {bytes before behind : List UInt8} {i : ℕ}

theorem closing_of_le (h : bytes.length ≤ i) : closing bytes i = i := by
  rw [closing, dif_neg (by omega)]

theorem closing_quote : closing (before ++ '"'.toUInt8 :: behind) before.length = before.length := by
  rw [closing, dif_pos (by simp), if_pos (by simp)]

theorem closing_back : closing (before ++ '\\'.toUInt8 :: behind) before.length =
    closing (before ++ '\\'.toUInt8 :: behind) (before.length + 2) := by
  rw [closing, dif_pos (by simp), if_neg (by simp; decide), if_pos (by simp)]

/-- The search goes on behind plain bytes. -/
theorem closing_plain (before behind : List UInt8) {mid : List UInt8}
    (h : ∀ b ∈ mid, PlainByte b) :
    closing (before ++ (mid ++ behind)) before.length =
      closing (before ++ (mid ++ behind)) (before.length + mid.length) := by
  induction mid generalizing before with
  | nil => rfl
  | cons b mid ih =>
    obtain ⟨hquote, hback⟩ := h b List.mem_cons_self
    have hstep : closing (before ++ (b :: mid ++ behind)) before.length =
        closing (before ++ (b :: mid ++ behind)) (before.length + 1) := by
      rw [closing, dif_pos (by simp), if_neg (by simpa using hquote), if_neg (by simpa using hback)]
    have hrest := ih (before ++ [b]) fun b' hb' => h b' (List.mem_cons_of_mem b hb')
    have hassoc : before ++ (b :: mid ++ behind) = before ++ [b] ++ (mid ++ behind) := by simp
    have hlength : before.length + (b :: mid).length = (before ++ [b]).length + mid.length := by
      simp
      omega
    rw [hstep, hlength, hassoc, ← hrest, List.length_append, List.length_singleton]

/-- The search among bytes finds the end of the value that is read from the characters, or goes past
their end. -/
theorem closing_bytesOf (before : List UInt8) (cs : List Char) :
    (readValue cs).elim ((before ++ bytesOf cs).length ≤ closing (before ++ bytesOf cs) before.length)
      fun found => closing (before ++ bytesOf cs) before.length =
        before.length + (bytesOf found.1).length := by
  induction cs using readValue.induct generalizing before with
  | case1 =>
    show (before ++ []).length ≤ _
    rw [closing_of_le (by simp [bytesOf])]
    simp
  | case2 cs => exact closing_quote
  | case3 c cs ih =>
    -- The search passes over the backslash and the first byte of the character behind it.
    obtain ⟨b, bs, hchar⟩ := List.exists_cons_of_ne_nil (String.utf8EncodeChar_ne_nil (c := c))
    have hbytes : before ++ bytesOf ('\\' :: c :: cs) =
        before ++ '\\'.toUInt8 :: (b :: bs ++ bytesOf cs) := by
      rw [← hchar]
      rfl
    have hplain : ∀ x ∈ bs, PlainByte x := by
      intro x hx
      refine plainByte_tail c x ?_
      rw [hchar]
      exact hx
    have hskip := closing_plain (before ++ ['\\'.toUInt8, b]) (bytesOf cs) hplain
    have hrest := ih (before ++ '\\'.toUInt8 :: b :: bs)
    simp only [List.append_assoc, List.cons_append, List.nil_append, List.length_append,
      List.length_cons, List.length_nil, Nat.zero_add] at hskip hrest
    rw [hbytes, closing_back, readValue]
    simp only [List.cons_append]
    rw [hskip]
    cases hread : readValue cs with
    | none =>
      rw [hread, Option.elim_none] at hrest
      simp only [Option.map_none, Option.elim_none]
      have hindex : before.length + 2 + bs.length = before.length + (bs.length + 1 + 1) := by omega
      rw [hindex]
      simpa using hrest
    | some found =>
      rw [hread, Option.elim_some] at hrest
      simp only [Option.map_some, Option.elim_some]
      have hindex : before.length + 2 + bs.length = before.length + (bs.length + 1 + 1) := by omega
      rw [hindex, hrest]
      have hvalue : bytesOf ('\\' :: c :: found.1) = '\\'.toUInt8 :: (b :: bs ++ bytesOf found.1) := by
        rw [← hchar]
        rfl
      rw [hvalue]
      simp
      omega
  | case4 c cs hquote hback ih =>
    by_cases hc : c = '\\'
    · -- A backslash at the very end takes the search past it.
      have hnil : cs = [] := by
        cases cs with
        | nil => rfl
        | cons c' cs' => exact (hback c' cs' hc rfl).elim
      subst hc hnil
      have hend : (before ++ ['\\'.toUInt8]).length ≤ before.length + 2 := by simp
      show (before ++ ['\\'.toUInt8]).length ≤ closing (before ++ ['\\'.toUInt8]) before.length
      rw [closing_back, closing_of_le hend]
      exact hend
    · have hquote : c ≠ '"' := hquote
      have hskip := closing_plain before (bytesOf cs) (plainByte_of_mem hquote hc)
      have hrest := ih (before ++ String.utf8EncodeChar c)
      have hread := readValue_cons hquote hback
      have hbytes : ∀ ds, bytesOf (c :: ds) = String.utf8EncodeChar c ++ bytesOf ds := fun _ => rfl
      rw [List.length_append, List.append_assoc] at hrest
      rw [hread, hbytes, hskip]
      cases hvalue : readValue cs with
      | none =>
        rw [hvalue, Option.elim_none] at hrest
        rw [Option.map_none, Option.elim_none]
        simpa [Nat.add_assoc] using hrest
      | some found =>
        rw [hvalue, Option.elim_some, List.length_append] at hrest
        rw [Option.map_some, Option.elim_some, hrest, Prod.map_fst, hbytes, List.length_append,
          Nat.add_assoc]

/-! ### Turns -/

theorem length_bytesOf (cs : List Char) : (bytesOf cs).length = (String.ofList cs).utf8ByteSize := by
  rw [← String.size_toByteArray, String.toByteArray_ofList]
  simp [bytesOf, List.utf8Encode]

theorem data_toByteArray (cs : List Char) :
    (String.ofList cs).toByteArray.data.toList = bytesOf cs := by
  rw [String.toByteArray_ofList]
  simp [bytesOf, List.utf8Encode]

/-- What the pair in front of a text, or its lack, makes of a turn. -/
def Turn.ofPair (key : String) : Option ((List Char × List Char) × List Char) → Turn
  | none => .answer none
  | some ((name, value), rest) =>
    if String.ofList name = key then .answer (some (String.ofList value))
    else .onward (String.ofList rest)

theorem slice?_ofList (a b c : List Char) :
    slice? (String.ofList (a ++ b ++ c)) (bytesOf a).length ((bytesOf a).length + (bytesOf b).length) =
      some (String.ofList b) := by
  rw [length_bytesOf, length_bytesOf, String.ofList_append, String.ofList_append]
  exact slice?_append _ _ _

theorem turnValue_eq (key : String) (name cs : List Char) :
    turnValue key (String.ofList (name ++ ':' :: '"' :: cs)) (bytesOf name).length =
      some (Turn.ofPair key ((readValue cs).map fun (value, rest) => ((name, value), rest))) := by
  have htext : ∀ ds, name ++ ':' :: '"' :: ds = name ++ [':', '"'] ++ ds := by simp
  have hsigns : (bytesOf [':', '"']).length = 2 := rfl
  have hname : slice? (String.ofList (name ++ [':', '"'] ++ cs)) 0 (bytesOf name).length =
      some (String.ofList name) := by
    simpa [bytesOf] using slice?_ofList [] name (':' :: '"' :: cs)
  have hclosing := closing_bytesOf (bytesOf (name ++ [':', '"'])) cs
  rw [← bytesOf_append, bytesOf_append name, List.length_append, hsigns] at hclosing
  rw [htext]
  unfold turnValue
  simp only [← length_bytesOf, data_toByteArray, hname, Option.bind_eq_bind, Option.bind_some]
  cases hread : readValue cs with
  | none =>
    rw [hread, Option.elim_none] at hclosing
    rw [if_pos hclosing]
    rfl
  | some found =>
    obtain ⟨value, rest⟩ := found
    rw [hread, Option.elim_some] at hclosing
    obtain rfl := eq_of_readValue hread
    dsimp only at hclosing
    have hquote : (bytesOf ['"']).length = 1 := rfl
    have hvalue := slice?_ofList (name ++ [':', '"']) value (['"'] ++ rest)
    have hrest := slice?_ofList (name ++ [':', '"'] ++ value ++ ['"']) rest []
    have hend : name ++ [':', '"'] ++ (value ++ '"' :: rest) =
        name ++ [':', '"'] ++ value ++ ['"'] ++ rest := by simp
    have hlength : (bytesOf (name ++ [':', '"'] ++ (value ++ '"' :: rest))).length =
        (bytesOf name).length + 2 + (bytesOf value).length + 1 + (bytesOf rest).length := by
      rw [hend]
      simp only [bytesOf_append, List.length_append, hsigns, hquote]
    simp only [bytesOf_append, List.length_append, hsigns, hquote, List.append_nil] at hvalue hrest
    rw [← List.append_assoc] at hvalue
    rw [hclosing, hlength, if_neg (by omega), hend, hvalue, hrest]
    by_cases hkey : String.ofList name = key
    · simp [Turn.ofPair, hkey]
    · simp [Turn.ofPair, hkey]

/-- **A turn in place cuts between characters**, and does what reading a pair does. -/
theorem turn_eq (key text : String) : turn key text = some (Turn.ofPair key (readPair text.toList)) := by
  unfold turn readPair
  dsimp only
  generalize text.toList.dropWhile (· == ' ') = cs
  simp only [← length_bytesOf, String.toList_ofList]
  have hcs : cs.takeWhile isKeyChar ++ cs.dropWhile isKeyChar = cs := List.takeWhile_append_dropWhile
  generalize cs.takeWhile isKeyChar = name at hcs
  generalize cs.dropWhile isKeyChar = tail at hcs
  subst hcs
  by_cases hname : name = []
  · subst hname
    by_cases htail : tail = []
    · subst htail
      rfl
    · simp [bytesOf, htail, Turn.ofPair]
  have htext : String.ofList (name ++ tail) ≠ "" := by simpa using fun h _ => hname h
  have hsize : ¬ (bytesOf name).length = 0 := by
    rw [length_bytesOf, String.utf8ByteSize_eq_zero_iff]
    simpa using hname
  have htail : slice? (String.ofList (name ++ tail)) (bytesOf name).length
      (bytesOf (name ++ tail)).length = some (String.ofList tail) := by
    simpa [bytesOf] using slice?_ofList name tail []
  rw [if_neg htext, if_neg hsize, htail, if_neg (by simpa using hname)]
  simp only [Option.pure_def, Option.bind_eq_bind, Option.bind_some, String.toList_ofList]
  cases hprefix : ":\"".toList.isPrefixOf tail with
  | true =>
    obtain ⟨cs, rfl⟩ := List.isPrefixOf_iff_prefix.mp hprefix
    exact turnValue_eq key name cs
  | false =>
    rw [Bool.not_false, if_pos rfl]
    split
    · cases hprefix
    · rfl

/-! ### Looking up -/

theorem lookup_of_none {tag : String} (h : readPair tag.toList = none) (key : String) :
    lookup tag key = none := by
  unfold lookup
  rw [pairs_of_none h]
  rfl

theorem lookup_of_some {tag : String} {name value rest : List Char}
    (h : readPair tag.toList = some ((name, value), rest)) (key : String) :
    lookup tag key =
      if String.ofList name = key then some (String.ofList value)
      else lookup (String.ofList rest) key := by
  have hiff : String.ofList name = key ↔ key.toList = name := by
    rw [← String.toList_inj, String.toList_ofList, eq_comm]
  unfold lookup
  rw [pairs_of_some h, List.lookup_cons, String.toList_ofList]
  by_cases hkey : key.toList = name
  · simp [hiff.mpr hkey, hkey]
  · have hbeq : (key.toList == name) = false := by simpa using hkey
    simp [hiff, hkey, hbeq]

/-- The scan comes to an end, since each turn leaves a shorter text. -/
theorem answers_lookup (key tag : String) : Answers key tag (lookup tag key) := by
  induction hlength : tag.toList.length using Nat.strong_induction_on generalizing tag with
  | _ n ih =>
    have hturn := turn_eq key tag
    cases hread : readPair tag.toList with
    | none =>
      rw [hread] at hturn
      rw [lookup_of_none hread]
      exact Answers.answer hturn
    | some found =>
      obtain ⟨⟨name, value⟩, rest⟩ := found
      rw [hread] at hturn
      rw [lookup_of_some hread]
      by_cases hkey : String.ofList name = key
      · rw [if_pos hkey]
        apply Answers.answer
        rw [hturn, Turn.ofPair, if_pos hkey]
      · rw [if_neg hkey]
        have hshorter : (String.ofList rest).toList.length < n := by
          rw [← hlength, String.toList_ofList]
          exact length_of_readPair hread
        refine Answers.onward ?_ (ih _ hshorter _ rfl)
        rw [hturn, Turn.ofPair, if_neg hkey]

theorem Answers.unique {key tag : String} {value value' : Option String} (h : Answers key tag value)
    (h' : Answers key tag value') : value = value' := by
  induction h with
  | answer hturn =>
    cases h' with
    | answer hturn' =>
      rw [hturn] at hturn'
      cases hturn'
      rfl
    | onward hturn' =>
      rw [hturn] at hturn'
      cases hturn'
  | onward hturn hrest ih =>
    cases h' with
    | answer hturn' =>
      rw [hturn] at hturn'
      cases hturn'
    | onward hturn' hrest' =>
      rw [hturn] at hturn'
      cases hturn'
      exact ih hrest'

/-- **Looking up inverts the conventional form.**  In a tag of that form, a key has the raw value of
the first pair with the key, and none if there is no such pair.  The scan of any text whatsoever, in
which each cut that is not between characters would leave it without an answer, comes to an end, and
its answer is the one that is looked up. -/
theorem lookup_render :
    (∀ (ps : List (ℕ × Pair)) (behind : ℕ) (key : String),
      lookup (render ps behind) key = (ps.find? fun p => p.2.key = key).map fun p => p.2.value) ∧
    ∀ (tag key : String) (value : Option String), Answers key tag value ↔ value = lookup tag key := by
  constructor
  · intro ps behind key
    unfold lookup render
    rw [String.toList_ofList, pairs_render, lookup_pairs]
  · intro tag key value
    constructor
    · intro h
      exact h.unique (answers_lookup key tag)
    · rintro rfl
      exact answers_lookup key tag

/-- A value with quotes, and with a character of two bytes behind a backslash. -/
def quotedPair : Pair :=
  ⟨"description", "the \\\"id\\\" \\ü", by decide, by simp, by decide +kernel⟩

def idPair : Pair := ⟨"json", "id,omitempty", by decide, by simp, by decide +kernel⟩

/-- A pair with the key of another. -/
def laterPair : Pair := ⟨"description", "later", by decide, by simp, by decide +kernel⟩

theorem lookup_render_quoted :
    let tag := render [(1, quotedPair), (0, idPair), (2, laterPair)] 1
    tag = " description:\"the \\\"id\\\" \\ü\"json:\"id,omitempty\"  description:\"later\" " ∧
      lookup tag "description" = some "the \\\"id\\\" \\ü" ∧
      Answers "description" tag (some "the \\\"id\\\" \\ü") ∧ lookup tag "xml" = none := by
  intro tag
  obtain ⟨hlookup, hanswers⟩ := lookup_render
  have hquoted : lookup tag "description" = some quotedPair.value := hlookup _ _ _
  exact ⟨by decide +kernel, hquoted, (hanswers _ _ _).mpr hquoted.symm, hlookup _ _ _⟩

end ApiScribe.StructTag
