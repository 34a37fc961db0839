import ApiScribe.Proofs.Json.RoundTrip
import ApiScribe.Text.Cut

/-!
# Words and decimal integers

What the readers of a line take from it, said without them: the words of a line are its pieces
between blanks (`words`), and the leading words are the first of these (`leadingWords_fst`); an
integer is read from the texts that `Signed` relates to it (`readInt?_eq_some_iff`).
-/

namespace ApiScribe.Text

/-! ### Words -/

/-- The words of a line: its pieces between blanks that are not empty. -/
def words (cs : List Char) : List (List Char) :=
  (cs.splitOnP isBlank).filter fun w => !w.isEmpty

@[simp] theorem words_nil : words [] = [] := by simp [words]

theorem words_cons_blank {c : Char} (hc : isBlank c = true) (cs : List Char) :
    words (c :: cs) = words cs := by
  unfold words
  rw [List.splitOnP_cons_eq_if_modifyHead, if_pos hc]
  rfl

theorem words_dropWhile (cs : List Char) : words (cs.dropWhile isBlank) = words cs := by
  induction cs with
  | nil => rfl
  | cons c cs ih =>
    cases hc : isBlank c with
    | true => rw [List.dropWhile_cons_of_pos hc, ih, words_cons_blank hc]
    | false => rw [List.dropWhile_cons_of_neg (by simp [hc])]

theorem isBlank_of_mem_word {cs : List Char} {c : Char} (h : c ∈ word cs) : isBlank c = false := by
  simpa using List.mem_takeWhile_imp h

theorem isBlank_of_afterWord {cs bs : List Char} {b : Char} (h : afterWord cs = b :: bs) :
    isBlank b = true := by
  have hhead := List.head?_dropWhile_not (fun c => !isBlank c) cs
  rw [show cs.dropWhile (fun c => !isBlank c) = b :: bs from h] at hhead
  simpa using hhead

theorem word_ne_nil {c : Char} (hc : isBlank c = false) (cs : List Char) : word (c :: cs) ≠ [] := by
  simp [word, hc]

theorem words_cons {c : Char} (hc : isBlank c = false) (cs : List Char) :
    words (c :: cs) = word (c :: cs) :: words (afterWord (c :: cs)) := by
  have hsplit : (c :: cs).splitOnP isBlank =
      (word (c :: cs) ++ afterWord (c :: cs)).splitOnP isBlank := by rw [word_append_afterWord]
  have hkeep : (!(word (c :: cs)).isEmpty) = true := by simpa using word_ne_nil hc cs
  unfold words
  rw [hsplit]
  rcases hrest : afterWord (c :: cs) with _ | ⟨b, bs⟩
  · rw [List.append_nil, List.splitOnP_eq_singleton fun x hx => isBlank_of_mem_word hx]
    simp [hkeep]
  · have hb : isBlank b = true := isBlank_of_afterWord hrest
    rw [List.splitOnP_append_cons_of_forall_mem (fun x hx => isBlank_of_mem_word hx) b hb]
    rw [List.filter_cons, if_pos hkeep, List.splitOnP_cons_eq_if_modifyHead, if_pos hb]
    rfl

theorem ne_nil_of_mem_words {cs w : List Char} (h : w ∈ words cs) : w ≠ [] := by
  simpa using (List.mem_filter.mp h).2

theorem isBlank_of_head? {cs : List Char} {c : Char} (h : (cs.dropWhile isBlank).head? = some c) :
    isBlank c = false := by
  have hhead := List.head?_dropWhile_not isBlank cs
  rw [h] at hhead
  simpa using hhead

theorem takeWords_fst (n : ℕ) {cs : List Char} (h : ∀ c, cs.head? = some c → isBlank c = false) :
    (takeWords n cs).1 = (words cs).take n := by
  induction n generalizing cs with
  | zero => rfl
  | succ n ih =>
    cases cs with
    | nil => rfl
    | cons c cs =>
      let tail := (afterWord (c :: cs)).dropWhile isBlank
      have hrest : (takeWords n tail).1 = (words tail).take n := ih fun _ => isBlank_of_head?
      rw [words_cons (h c rfl), List.take_succ_cons, takeWords, ← words_dropWhile, ← hrest]

/-- **The leading words of a line are the first of its words.** -/
theorem leadingWords_fst (n : ℕ) (cs : List Char) : (leadingWords n cs).1 = (words cs).take n := by
  unfold leadingWords
  rw [takeWords_fst n fun _ => isBlank_of_head?, words_dropWhile]

/-! ### Decimal integers -/

/-- The texts of an integer: its decimal digits, after a sign or without one. -/
inductive Signed : List Char → Int → Prop
  | bare {ds : List Char} (hne : ds ≠ []) (h : ∀ c ∈ ds, c.isDigit) :
    Signed ds (Nat.ofDigitChars 10 ds 0)
  | plus {ds : List Char} (hne : ds ≠ []) (h : ∀ c ∈ ds, c.isDigit) :
    Signed ('+' :: ds) (Nat.ofDigitChars 10 ds 0)
  | minus {ds : List Char} (hne : ds ≠ []) (h : ∀ c ∈ ds, c.isDigit) :
    Signed ('-' :: ds) (-(Nat.ofDigitChars 10 ds 0))

theorem isDigit_of_readDigits {cs : List Char} {n m : ℕ} (h : readDigits n cs = some m) :
    ∀ c ∈ cs, c.isDigit := by
  induction cs generalizing n with
  | nil => exact fun c hc => absurd hc List.not_mem_nil
  | cons c cs ih =>
    unfold readDigits decimalDigit? at h
    split at h
    · rename_i d hd
      obtain ⟨hrange, -⟩ := Option.ite_none_right_eq_some.mp hd
      rintro x (_ | ⟨_, hx⟩)
      · exact Char.isDigit_iff_toNat.mpr (by simpa using hrange)
      · exact ih h x hx
    · cases h

theorem readNat?_eq_some_iff {cs : List Char} {n : ℕ} :
    readNat? cs = some n ↔ cs ≠ [] ∧ (∀ c ∈ cs, c.isDigit) ∧ Nat.ofDigitChars 10 cs 0 = n := by
  cases cs with
  | nil => simp [readNat?]
  | cons c cs =>
    constructor
    · intro h
      have hdigits : ∀ x ∈ c :: cs, x.isDigit := isDigit_of_readDigits h
      have hread := readDigits_eq hdigits 0
      exact ⟨List.cons_ne_nil c cs, hdigits, Option.some.inj (hread.symm.trans h)⟩
    · rintro ⟨-, hdigits, rfl⟩
      exact readDigits_eq hdigits 0

theorem readInt?_eq_some_iff {cs : List Char} {n : Int} : readInt? cs = some n ↔ Signed cs n := by
  constructor
  · intro h
    unfold readInt? at h
    split at h
    all_goals
      obtain ⟨m, hm, rfl⟩ := Option.map_eq_some_iff.mp h
      obtain ⟨hne, hdigits, rfl⟩ := readNat?_eq_some_iff.mp hm
    · exact .plus hne hdigits
    · exact .minus hne hdigits
    · exact .bare hne hdigits
  · intro h
    cases h with
    | plus hne hdigits =>
      exact Option.map_eq_some_iff.mpr ⟨_, readNat?_eq_some_iff.mpr ⟨hne, hdigits, rfl⟩, rfl⟩
    | minus hne hdigits =>
      exact Option.map_eq_some_iff.mpr ⟨_, readNat?_eq_some_iff.mpr ⟨hne, hdigits, rfl⟩, rfl⟩
    | bare hne hdigits =>
      unfold readInt?
      split
      · exact absurd (hdigits '+' List.mem_cons_self) (by decide)
      · exact absurd (hdigits '-' List.mem_cons_self) (by decide)
      · exact Option.map_eq_some_iff.mpr ⟨_, readNat?_eq_some_iff.mpr ⟨hne, hdigits, rfl⟩, rfl⟩

/-- An integer is a text of itself as it is written. -/
theorem signed_toString (n : Int) : Signed (toString n).toList n := by
  cases n with
  | ofNat m =>
    have htext : (toString (Int.ofNat m)).toList = Nat.toDigits 10 m := Nat.toList_repr
    rw [htext]
    exact readInt?_eq_some_iff.mp (Json.readInt?_toDigits m)
  | negSucc m =>
    have hsigned := Signed.minus Nat.toDigits_ne_nil (isDigit_toDigits (m + 1))
    rw [Nat.ofDigitChars_ten_toDigits] at hsigned
    rwa [Json.toList_toString_negSucc]

/-- **An integer of 32 bits is read from exactly its texts.** -/
theorem readInt32?_eq_some_iff {cs : List Char} {n : Int32} :
    readInt32? cs = some n ↔ Signed cs n.toInt := by
  have hmin : Int32.minValue.toInt = -2 ^ 31 := by decide
  have hmax : Int32.maxValue.toInt = 2 ^ 31 - 1 := by decide
  unfold readInt32?
  rw [Option.bind_eq_some_iff, hmin, hmax]
  constructor
  · rintro ⟨m, hm, hn⟩
    obtain ⟨⟨hlow, hhigh⟩, hn⟩ := Option.ite_none_right_eq_some.mp hn
    rw [← Option.some.inj hn, Int32.toInt_ofInt_of_le hlow (by omega)]
    exact readInt?_eq_some_iff.mp hm
  · intro h
    have hlow := Int32.le_toInt n
    have hhigh := Int32.toInt_lt n
    refine ⟨n.toInt, readInt?_eq_some_iff.mpr h, ?_⟩
    rw [if_pos ⟨hlow, by omega⟩, Int32.ofInt_toInt]

end ApiScribe.Text
