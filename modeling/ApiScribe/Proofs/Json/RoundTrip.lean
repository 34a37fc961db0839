import ApiScribe.Json.Read
import ApiScribe.Json.Write
import Mathlib.Data.List.TakeWhile

/-!
# Reading what is written

The text of a value without decimals is read as the value (`read?_text`): its integers are written
digit by digit, each character of its strings is read back from its escape
(`readString_escapeChar`), and what separates items and members only begins where a value ends.
-/

namespace ApiScribe

/-! ### Integers -/

namespace Text

theorem readDigits_eq {cs : List Char} (h : ∀ c ∈ cs, c.isDigit) (n : ℕ) :
    readDigits n cs = some (Nat.ofDigitChars 10 cs n) := by
  induction cs generalizing n with
  | nil => rw [Nat.ofDigitChars_nil, readDigits]
  | cons c cs ih =>
    have hdigit : decimalDigit? c = some (c.toNat - 48) := by
      have hc : 48 ≤ c.toNat ∧ c.toNat ≤ 57 := Char.isDigit_iff_toNat.mp (h c List.mem_cons_self)
      simp [decimalDigit?, hc]
    rw [readDigits, hdigit, Nat.ofDigitChars_cons]
    exact ih (fun c hc => h c (List.mem_cons_of_mem _ hc)) _

theorem isDigit_toDigits (n : ℕ) : ∀ c ∈ Nat.toDigits 10 n, c.isDigit := fun _ hc =>
  Nat.isDigit_of_mem_toDigits (by decide) (by decide) hc

theorem readNat?_toDigits (n : ℕ) : readNat? (Nat.toDigits 10 n) = some n := by
  have hread := readDigits_eq (isDigit_toDigits n) 0
  rw [Nat.ofDigitChars_ten_toDigits] at hread
  cases hcs : Nat.toDigits 10 n with
  | nil => exact absurd hcs Nat.toDigits_ne_nil
  | cons c cs => rwa [hcs] at hread

end Text

namespace Json

theorem head?_toDigits {n : ℕ} (h : 0 < n) : (Nat.toDigits 10 n).head? ≠ some '0' := by
  induction n using Nat.strongRecOn with
  | _ n ih =>
    by_cases hn : n < 10
    · rw [Nat.toDigits_of_lt_base hn]
      have hdigit : ∀ m < 10, 0 < m → m.digitChar ≠ '0' := by decide
      simpa using hdigit n hn h
    · rw [Nat.toDigits_of_base_le (by decide) (by omega)]
      have hhead := ih (n / 10) (by omega) (by omega)
      cases hcs : Nat.toDigits 10 (n / 10) with
      | nil => exact absurd hcs Nat.toDigits_ne_nil
      | cons c cs => rwa [hcs] at hhead

theorem isCanonical_toDigits (n : ℕ) : isCanonical (Nat.toDigits 10 n) := by
  have hall : (Nat.toDigits 10 n).all Char.isDigit := List.all_eq_true.mpr (Text.isDigit_toDigits n)
  unfold isCanonical
  split
  · rename_i c cs heq
    cases n with
    | zero => cases heq.symm.trans (Nat.toDigits_zero 10)
    | succ n => exact absurd (by rw [heq]; rfl) (head?_toDigits n.succ_pos)
  · simp [hall, Nat.toDigits_ne_nil]

theorem unsigned_digits {cs : List Char} (h : ∀ c ∈ cs, c.isDigit) : unsigned cs = cs := by
  unfold unsigned
  split
  · exact absurd (h '-' List.mem_cons_self) (by decide)
  · rfl

theorem number?_eq {cs digits : List Char} (hcs : unsigned cs = digits)
    (hdigits : ∀ c ∈ digits, c.isDigit) (hcanonical : isCanonical digits)
    (hzero : cs ≠ ['-', '0']) : number? cs = (Text.readInt? cs).map int := by
  have htake : digits.takeWhile Char.isDigit = digits := List.takeWhile_eq_self_iff.mpr hdigits
  have hdrop : digits.dropWhile Char.isDigit = [] := List.dropWhile_eq_nil_iff.mpr hdigits
  unfold number?
  rw [hcs, htake, hdrop]
  simp [hcanonical, hzero]

theorem readInt?_toDigits (n : ℕ) : Text.readInt? (Nat.toDigits 10 n) = some (Int.ofNat n) := by
  have hdigits := Text.isDigit_toDigits n
  have hread := Text.readNat?_toDigits n
  unfold Text.readInt?
  split
  · rename_i heq
    rw [heq] at hdigits
    exact absurd (hdigits '+' List.mem_cons_self) (by decide)
  · rename_i heq
    rw [heq] at hdigits
    exact absurd (hdigits '-' List.mem_cons_self) (by decide)
  · rw [hread]
    rfl

theorem toList_toString_negSucc (n : ℕ) :
    (toString (Int.negSucc n)).toList = '-' :: Nat.toDigits 10 (n + 1) := by
  rw [Int.toString_eq_repr, Int.repr_eq_if, if_neg (by simp), String.toList_append, Nat.toList_repr]
  rfl

/-- **An integer is read from its text.** -/
theorem number?_toString (n : Int) : number? (toString n).toList = some (.int n) := by
  cases n with
  | ofNat m =>
    have htext : (toString (Int.ofNat m)).toList = Nat.toDigits 10 m := Nat.toList_repr
    have hdigits := Text.isDigit_toDigits m
    rw [htext, number?_eq (unsigned_digits hdigits) hdigits (isCanonical_toDigits m),
      readInt?_toDigits]
    · rfl
    · intro heq
      rw [heq] at hdigits
      exact absurd (hdigits '-' List.mem_cons_self) (by decide)
  | negSucc m =>
    have hread : Text.readInt? ('-' :: Nat.toDigits 10 (m + 1)) = some (Int.negSucc m) := by
      show (Text.readNat? (Nat.toDigits 10 (m + 1))).map _ = _
      rw [Text.readNat?_toDigits]
      rfl
    have hunsigned : unsigned ('-' :: Nat.toDigits 10 (m + 1)) = Nat.toDigits 10 (m + 1) := rfl
    rw [toList_toString_negSucc,
      number?_eq hunsigned (Text.isDigit_toDigits _) (isCanonical_toDigits _), hread]
    · rfl
    · intro heq
      exact head?_toDigits m.succ_pos (by rw [(List.cons.inj heq).2]; rfl)

/-! ### Strings -/

theorem readHex4_control {n : ℕ} (h : n < 0x20) :
    readHex4 '0' '0' (hexChar (n / 16)) (hexChar (n % 16)) = some n := by
  have key : ∀ n < 0x20, readHex4 '0' '0' (hexChar (n / 16)) (hexChar (n % 16)) = some n := by
    decide
  exact key n h

theorem readString_plain {c : Char} (hquote : c ≠ '"') (hback : c ≠ '\\') (hlow : ¬c.toNat < 0x20)
    (rest : List Char) :
    readString (c :: rest) = (readString rest).map fun (s, r) => (c :: s, r) := by
  rw [readString.eq_def]
  split
  · contradiction
  · rename_i heq
    exact absurd (List.cons.inj heq).1 hquote
  · rename_i heq
    exact absurd (List.cons.inj heq).1 hback
  · rename_i heq
    exact absurd (List.cons.inj heq).1 hback
  · rename_i heq
    cases heq
    rw [if_neg hlow]

theorem readString_simple {c e : Char} (h : simpleEscape? e = some c) (rest : List Char) :
    readString ('\\' :: e :: rest) = (readString rest).map fun (s, r) => (c :: s, r) := by
  have hletter : e ≠ 'u' := by
    rintro rfl
    cases h
  rw [readString.eq_def]
  split
  · contradiction
  · rename_i heq
    exact absurd (List.cons.inj heq).1 (by decide)
  · rename_i heq
    exact absurd (List.cons.inj (List.cons.inj heq).2).1 hletter
  · rename_i heq
    cases heq
    rw [h]
  · rename_i hother heq
    cases heq
    exact absurd rfl (hother e rest rfl)

theorem readString_control {c : Char} (h : c.toNat < 0x20) (rest : List Char) :
    readString ('\\' :: 'u' :: '0' :: '0' :: hexChar (c.toNat / 16) :: hexChar (c.toNat % 16) ::
      rest) = (readString rest).map fun (s, r) => (c :: s, r) := by
  have hlow : (decide (0xD800 ≤ c.toNat) && decide (c.toNat < 0xDC00)) = false := by
    rw [Bool.and_eq_false_iff]
    exact Or.inl (decide_eq_false (by omega))
  have hhigh : (decide (0xDC00 ≤ c.toNat) && decide (c.toNat < 0xE000)) = false := by
    rw [Bool.and_eq_false_iff]
    exact Or.inl (decide_eq_false (by omega))
  rw [readString, readHex4_control h]
  simp only [hlow, hhigh, Char.ofNat_toNat]
  rfl

/-- **A character is read back from its escape.** -/
theorem readString_escapeChar (c : Char) (rest : List Char) :
    readString (escapeChar c ++ rest) = (readString rest).map fun (s, r) => (c :: s, r) := by
  unfold escapeChar
  split
  · subst c
    exact readString_simple rfl rest
  split
  · subst c
    exact readString_simple rfl rest
  split
  · subst c
    exact readString_simple rfl rest
  split
  · subst c
    exact readString_simple rfl rest
  split
  · subst c
    exact readString_simple rfl rest
  split
  · have hc : c = Char.ofNat 8 := Char.toNat_inj.mp ‹_›
    rw [hc]
    exact readString_simple rfl rest
  split
  · have hc : c = Char.ofNat 12 := Char.toNat_inj.mp ‹_›
    rw [hc]
    exact readString_simple rfl rest
  split
  · exact readString_control ‹_› rest
  · exact readString_plain ‹_› ‹_› ‹_› rest

theorem readString_flatMap (cs rest : List Char) :
    readString (cs.flatMap escapeChar ++ '"' :: rest) = some (cs, rest) := by
  induction cs with
  | nil => simp [readString]
  | cons c cs ih => rw [List.flatMap_cons, List.append_assoc, readString_escapeChar, ih]; rfl

/-! ### White space -/

theorem skipSpace_newline (level : ℕ) (cs : List Char) :
    skipSpace (newline level ++ cs) = skipSpace cs := by
  have hspaces : ∀ n, skipSpace (List.replicate n ' ' ++ cs) = skipSpace cs := by
    intro n
    induction n with
    | zero => rfl
    | succ n ih => exact ih
  exact hspaces _

/-- A value may have white space in front. -/
theorem readValue_congr (fuel : ℕ) {cs cs' : List Char} (h : skipSpace cs = skipSpace cs') :
    readValue fuel cs = readValue fuel cs' := by
  cases fuel with
  | zero => rw [readValue, readValue]
  | succ fuel => rw [readValue, readValue, h]

theorem readItems_newline (fuel level : ℕ) (cs : List Char) :
    readItems fuel (newline level ++ cs) = readItems fuel cs := by
  cases fuel with
  | zero => rw [readItems, readItems]
  | succ fuel => rw [readItems, readItems, readValue_congr fuel (skipSpace_newline level cs)]

theorem readMembers_newline (fuel level : ℕ) (cs : List Char) :
    readMembers fuel (newline level ++ cs) = readMembers fuel cs := by
  cases fuel with
  | zero => rw [readMembers, readMembers]
  | succ fuel => rw [readMembers, readMembers, skipSpace_newline]

/-! ### Numbers in a text -/

/-- What follows a number does not go on with it. -/
def Stops (rest : List Char) : Prop := ∀ c ∈ rest.head?, isNumberChar c = false

theorem stops_newline (level : ℕ) (cs : List Char) : Stops (newline level ++ cs) := by
  intro c hc
  cases hc
  decide

theorem isNumberChar_toString (n : Int) : ∀ c ∈ (toString n).toList, isNumberChar c := by
  have hdigit : ∀ c : Char, c.isDigit → isNumberChar c := fun c hc => by simp [isNumberChar, hc]
  cases n with
  | ofNat m =>
    have htext : (toString (Int.ofNat m)).toList = Nat.toDigits 10 m := Nat.toList_repr
    rw [htext]
    exact fun c hc => hdigit c (Text.isDigit_toDigits m c hc)
  | negSucc m =>
    rw [toList_toString_negSucc]
    intro c hc
    rcases List.mem_cons.mp hc with rfl | hc
    · decide
    · exact hdigit c (Text.isDigit_toDigits _ c hc)

theorem toString_eq_cons (n : Int) : ∃ c cs, (toString n).toList = c :: cs := by
  have hread := number?_toString n
  cases hcs : (toString n).toList with
  | nil =>
    rw [hcs] at hread
    cases hread
  | cons c cs => exact ⟨c, cs, rfl⟩

/-- The characters with which no value starts. -/
def unopened : List Char := [' ', '\n', '\r', '\t', ']']

theorem skipSpace_cons {c : Char} (h : c ∉ unopened) (cs : List Char) :
    skipSpace (c :: cs) = c :: cs := by
  refine List.dropWhile_cons_of_neg fun hspace => h ?_
  simp only [Bool.or_eq_true, beq_iff_eq] at hspace
  rcases hspace with ((rfl | rfl) | rfl) | rfl <;> decide

theorem not_mem_unopened {c : Char} (hc : isNumberChar c) : c ∉ unopened := by
  intro h
  have key : unopened.all (fun c => !isNumberChar c) = true := by decide
  have hnot := List.all_eq_true.mp key c h
  rw [hc] at hnot
  cases hnot

theorem readValue_number {c : Char} (hc : isNumberChar c) (fuel : ℕ) (cs : List Char) :
    readValue (fuel + 1) (c :: cs) = (number? ((c :: cs).takeWhile isNumberChar)).map fun j =>
      (j, (c :: cs).dropWhile isNumberChar) := by
  rw [readValue, skipSpace_cons (not_mem_unopened hc)]
  split
  all_goals
    first
    | rfl
    | rename_i heq
      exact absurd ((List.cons.inj heq).1 ▸ hc) (by decide)

/-- The number ends where something follows that does not go on with it. -/
theorem readValue_toString (n : Int) (fuel : ℕ) {rest : List Char} (hrest : Stops rest) :
    readValue (fuel + 1) ((toString n).toList ++ rest) = some (.int n, rest) := by
  have hchars := isNumberChar_toString n
  have htake : ((toString n).toList ++ rest).takeWhile isNumberChar = (toString n).toList := by
    rw [List.takeWhile_append_of_pos hchars]
    cases rest with
    | nil => simp
    | cons c cs => rw [List.takeWhile_cons_of_neg (by simp [hrest c rfl]), List.append_nil]
  have hdrop : ((toString n).toList ++ rest).dropWhile isNumberChar = rest := by
    rw [List.dropWhile_append_of_pos hchars]
    cases rest with
    | nil => rfl
    | cons c cs => rw [List.dropWhile_cons_of_neg (by simp [hrest c rfl])]
  obtain ⟨c, cs, hcs⟩ := toString_eq_cons n
  have hread : number? (((toString n).toList ++ rest).takeWhile isNumberChar) = some (.int n) := by
    rw [htake, number?_toString]
  rw [hcs, List.cons_append] at hdrop hread ⊢
  rw [readValue_number (hchars c (hcs ▸ List.mem_cons_self)), hread, hdrop]
  rfl

/-! ### Values -/

mutual

/-- Whether a value holds no decimals. -/
def isWhole : Json → Bool
  | decimal _ => false
  | arr js => areWhole js
  | obj ms => areWholeMembers ms
  | _ => true

def areWhole : List Json → Bool
  | [] => true
  | j :: js => j.isWhole && areWhole js

def areWholeMembers : List (String × Json) → Bool
  | [] => true
  | (_, j) :: ms => j.isWhole && areWholeMembers ms

end

theorem pretty_eq_cons {j : Json} (h : j.isWhole) (level : ℕ) :
    ∃ c cs, pretty level j = c :: cs ∧ c ∉ unopened := by
  cases j with
  | null => exact ⟨_, _, rfl, by decide⟩
  | bool b => cases b <;> exact ⟨_, _, rfl, by decide⟩
  | int n =>
    obtain ⟨c, cs, hcs⟩ := toString_eq_cons n
    have hc := isNumberChar_toString n c (hcs ▸ List.mem_cons_self)
    exact ⟨c, cs, by rw [pretty, hcs], not_mem_unopened hc⟩
  | decimal text => cases h
  | str s => exact ⟨_, _, rfl, by decide⟩
  | arr js => cases js <;> exact ⟨_, _, rfl, by decide⟩
  | obj ms => cases ms <;> exact ⟨_, _, rfl, by decide⟩

theorem readValue_quote (fuel : ℕ) (s : String) (rest : List Char) :
    readValue (fuel + 1) (quote s ++ rest) = some (.str s, rest) := by
  unfold quote
  rw [List.cons_append, List.cons_append, List.append_assoc, List.singleton_append, readValue,
    skipSpace_cons (by decide)]
  simp only [readString_flatMap, Option.map_some, String.ofList_toList]

theorem readValue_bracket (fuel : ℕ) (cs : List Char) :
    readValue (fuel + 1) ('[' :: cs) = match skipSpace cs with
      | ']' :: r => some (arr [], r)
      | cs => (readItems fuel cs).map fun (js, r) => (arr js, r) := by
  rw [readValue, skipSpace_cons (by decide)]
  rfl

theorem readValue_brace (fuel : ℕ) (cs : List Char) :
    readValue (fuel + 1) ('\x7b' :: cs) = match skipSpace cs with
      | '\x7d' :: r => some (obj [], r)
      | cs => (readMembers fuel cs).map fun (ms, r) => (obj ms, r) := by
  rw [readValue, skipSpace_cons (by decide)]
  rfl

theorem readValue_arr (fuel : ℕ) {cs cs' : List Char} (hspace : skipSpace cs = cs')
    (h : ∀ r, cs' ≠ ']' :: r) :
    readValue (fuel + 1) ('[' :: cs) = (readItems fuel cs').map fun (js, r) => (arr js, r) := by
  subst hspace
  rw [readValue_bracket]
  split
  · exact absurd ‹_› (h _)
  · rfl

theorem readValue_obj (fuel : ℕ) {cs cs' : List Char} (hspace : skipSpace cs = cs')
    (h : ∀ r, cs' ≠ '\x7d' :: r) :
    readValue (fuel + 1) ('\x7b' :: cs) = (readMembers fuel cs').map fun (ms, r) => (obj ms, r) := by
  subst hspace
  rw [readValue_brace]
  split
  · exact absurd ‹_› (h _)
  · rfl

theorem skipSpace_item {j : Json} (h : j.isWhole) (level : ℕ) (rest : List Char) :
    skipSpace (newline level ++ (pretty level j ++ rest)) = pretty level j ++ rest := by
  obtain ⟨c, cs, hcs, hc⟩ := pretty_eq_cons h level
  rw [skipSpace_newline, hcs, List.cons_append, skipSpace_cons hc]

theorem pretty_ne_close {j : Json} (h : j.isWhole) (level : ℕ) (rest r : List Char) :
    pretty level j ++ rest ≠ ']' :: r := by
  intro heq
  obtain ⟨c, cs, hcs, hc⟩ := pretty_eq_cons h level
  rw [hcs, List.cons_append] at heq
  exact hc ((List.cons.inj heq).1 ▸ by decide)

theorem skipSpace_member (level : ℕ) (k : String) (rest : List Char) :
    skipSpace (newline level ++ (quote k ++ rest)) = quote k ++ rest := by
  rw [skipSpace_newline]
  exact skipSpace_cons (by decide) _

theorem quote_ne_close (k : String) (rest r : List Char) : quote k ++ rest ≠ '\x7d' :: r :=
  fun heq => absurd (List.cons.inj heq).1 (by decide)

theorem stops_prettyItems (level close : ℕ) (js : List Json) (cs : List Char) :
    Stops (prettyItems level js ++ (newline close ++ cs)) := by
  cases js with
  | nil => exact stops_newline close cs
  | cons j js =>
    intro c hc
    rw [prettyItems] at hc
    cases hc
    decide

theorem stops_prettyMembers (level close : ℕ) (ms : List (String × Json)) (cs : List Char) :
    Stops (prettyMembers level ms ++ (newline close ++ cs)) := by
  cases ms with
  | nil => exact stops_newline close cs
  | cons e ms =>
    intro c hc
    rw [prettyMembers] at hc
    cases hc
    decide

theorem readItems_last {fuel : ℕ} {cs cs' r : List Char} {j : Json}
    (hread : readValue fuel cs = some (j, cs')) (hnext : skipSpace cs' = ']' :: r) :
    readItems (fuel + 1) cs = some ([j], r) := by
  rw [readItems, hread]
  simp only [hnext]

theorem readItems_comma {fuel : ℕ} {cs cs' r : List Char} {j : Json}
    (hread : readValue fuel cs = some (j, cs')) (hnext : skipSpace cs' = ',' :: r) :
    readItems (fuel + 1) cs = (readItems fuel r).map fun (js, r) => (j :: js, r) := by
  rw [readItems, hread]
  simp only [hnext]

theorem readMembers_quote (fuel : ℕ) (k : String) (cs : List Char) :
    readMembers (fuel + 1) (quote k ++ ':' :: ' ' :: cs) =
      match readValue fuel cs with
      | none => none
      | some (j, cs) =>
        match skipSpace cs with
        | '\x7d' :: r => some ([(k, j)], r)
        | ',' :: cs => (readMembers fuel cs).map fun (ms, r) => ((k, j) :: ms, r)
        | _ => none := by
  have hquote : skipSpace (quote k ++ ':' :: ' ' :: cs) =
      '"' :: (k.toList.flatMap escapeChar ++ '"' :: ':' :: ' ' :: cs) := by
    unfold quote
    rw [List.cons_append, List.cons_append, List.append_assoc, List.singleton_append,
      skipSpace_cons (by decide)]
  have hcolon : skipSpace (':' :: ' ' :: cs) = ':' :: ' ' :: cs := skipSpace_cons (by decide) _
  have hspace : readValue fuel (' ' :: cs) = readValue fuel cs := readValue_congr fuel rfl
  have hread := readMembers.eq_2 (quote k ++ ':' :: ' ' :: cs) fuel
  simp only [hquote, readString_flatMap, hcolon, hspace, String.ofList_toList] at hread
  exact hread

theorem readMembers_last {fuel : ℕ} {k : String} {cs cs' r : List Char} {j : Json}
    (hread : readValue fuel cs = some (j, cs')) (hnext : skipSpace cs' = '\x7d' :: r) :
    readMembers (fuel + 1) (quote k ++ ':' :: ' ' :: cs) = some ([(k, j)], r) := by
  rw [readMembers_quote, hread]
  simp only [hnext]

theorem readMembers_comma {fuel : ℕ} {k : String} {cs cs' r : List Char} {j : Json}
    (hread : readValue fuel cs = some (j, cs')) (hnext : skipSpace cs' = ',' :: r) :
    readMembers (fuel + 1) (quote k ++ ':' :: ' ' :: cs) =
      (readMembers fuel r).map fun (ms, r) => ((k, j) :: ms, r) := by
  rw [readMembers_quote, hread]
  simp only [hnext]

mutual

/-- **A value is read from its text**, whatever follows that does not go on with a number. -/
theorem readValue_pretty : ∀ (j : Json), j.isWhole → ∀ (level fuel : ℕ) {rest : List Char},
    2 * (pretty level j).length ≤ fuel → Stops rest →
      readValue fuel (pretty level j ++ rest) = some (j, rest)
  | j, hj, level, 0, rest, hfuel, _ => by
    obtain ⟨c, cs, hcs, -⟩ := pretty_eq_cons hj level
    rw [hcs, List.length_cons] at hfuel
    omega
  | .null, _, level, fuel + 1, rest, _, _ => rfl
  | .bool true, _, level, fuel + 1, rest, _, _ => rfl
  | .bool false, _, level, fuel + 1, rest, _, _ => rfl
  | .int n, _, level, fuel + 1, rest, _, hrest => readValue_toString n fuel hrest
  | .str s, _, level, fuel + 1, rest, _, _ => readValue_quote fuel s rest
  | .arr [], _, level, fuel + 1, rest, _, _ => rfl
  | .arr (j :: js), h, level, fuel + 1, rest, hfuel, _ => by
    rw [isWhole, areWhole, Bool.and_eq_true] at h
    rw [pretty] at hfuel ⊢
    simp only [List.cons_append, List.append_assoc, List.nil_append, List.length_cons,
      List.length_append] at hfuel ⊢
    -- The brackets leave the fuel with which the items are taken apart.
    obtain ⟨fuel, rfl⟩ : ∃ m, fuel = m + 1 := ⟨fuel - 1, by omega⟩
    have hvalue := readValue_pretty j h.1 (level + 1) fuel (by omega)
      (stops_prettyItems (level + 1) level js (']' :: rest))
    have hitems := readItems_prettyItems js h.2 (by omega) hvalue
    rw [readValue_arr _ (skipSpace_item h.1 _ _) (pretty_ne_close h.1 _ _), hitems]
    rfl
  | .obj [], _, level, fuel + 1, rest, _, _ => rfl
  | .obj ((k, j) :: ms), h, level, fuel + 1, rest, hfuel, _ => by
    rw [isWhole, areWholeMembers, Bool.and_eq_true] at h
    rw [pretty] at hfuel ⊢
    simp only [List.cons_append, List.append_assoc, List.nil_append, List.length_cons,
      List.length_append] at hfuel ⊢
    obtain ⟨fuel, rfl⟩ : ∃ m, fuel = m + 1 := ⟨fuel - 1, by omega⟩
    have hvalue := readValue_pretty j h.1 (level + 1) fuel (by omega)
      (stops_prettyMembers (level + 1) level ms ('\x7d' :: rest))
    have hmembers := readMembers_prettyMembers ms h.2 k (by omega) hvalue
    rw [readValue_obj _ (skipSpace_member _ k _) (quote_ne_close k _), hmembers]
    rfl

/-- The items behind one that has been read. -/
theorem readItems_prettyItems : ∀ (js : List Json), areWhole js →
    ∀ {level close fuel : ℕ} {j : Json} {cs rest : List Char},
      2 * (prettyItems level js).length ≤ fuel →
      readValue fuel cs = some (j, prettyItems level js ++ (newline close ++ ']' :: rest)) →
        readItems (fuel + 1) cs = some (j :: js, rest)
  | [], _, level, close, fuel, j, cs, rest, _, hread => by
    rw [prettyItems, List.nil_append] at hread
    exact readItems_last hread (skipSpace_newline close _)
  | j' :: js, h, level, close, fuel, j, cs, rest, hfuel, hread => by
    rw [areWhole, Bool.and_eq_true] at h
    rw [prettyItems] at hfuel hread
    simp only [List.cons_append, List.append_assoc, List.length_cons,
      List.length_append] at hfuel hread
    obtain ⟨fuel, rfl⟩ : ∃ m, fuel = m + 1 := ⟨fuel - 1, by omega⟩
    have hvalue := readValue_pretty j' h.1 level fuel (by omega)
      (stops_prettyItems level close js (']' :: rest))
    have hitems := readItems_prettyItems js h.2 (by omega) hvalue
    rw [readItems_comma hread (skipSpace_cons (by decide) _), readItems_newline, hitems]
    rfl

/-- The members behind one whose value has been read. -/
theorem readMembers_prettyMembers : ∀ (ms : List (String × Json)), areWholeMembers ms →
    ∀ (k : String) {level close fuel : ℕ} {j : Json} {cs rest : List Char},
      2 * (prettyMembers level ms).length ≤ fuel →
      readValue fuel cs = some (j, prettyMembers level ms ++ (newline close ++ '\x7d' :: rest)) →
        readMembers (fuel + 1) (quote k ++ ':' :: ' ' :: cs) = some ((k, j) :: ms, rest)
  | [], _, k, level, close, fuel, j, cs, rest, _, hread => by
    rw [prettyMembers, List.nil_append] at hread
    exact readMembers_last hread (skipSpace_newline close _)
  | (k', j') :: ms, h, k, level, close, fuel, j, cs, rest, hfuel, hread => by
    rw [areWholeMembers, Bool.and_eq_true] at h
    rw [prettyMembers] at hfuel hread
    simp only [List.cons_append, List.append_assoc, List.length_cons,
      List.length_append] at hfuel hread
    obtain ⟨fuel, rfl⟩ : ∃ m, fuel = m + 1 := ⟨fuel - 1, by omega⟩
    have hvalue := readValue_pretty j' h.1 level fuel (by omega)
      (stops_prettyMembers level close ms ('\x7d' :: rest))
    have hmembers := readMembers_prettyMembers ms h.2 k' (by omega) hvalue
    rw [readMembers_comma hread (skipSpace_cons (by decide) _), readMembers_newline, hmembers]
    rfl

end

/-- **The text of a value without decimals is read as the value.** -/
theorem read?_text {j : Json} (h : j.isWhole) : read? j.text = some j := by
  have hstops : Stops [] := by
    intro c hc
    cases hc
  have hread := readValue_pretty j h 0 (2 * (pretty 0 j).length + 1) (by omega) hstops
  rw [List.append_nil] at hread
  unfold read? text
  simp only [String.toList_ofList, hread]
  rfl

end Json

end ApiScribe
