import ApiScribe.Proofs.Operation.Account
import ApiScribe.Proofs.Operation.InPlace
import ApiScribe.Proofs.Operation.Padding

/-!
# Lines composed from their parts

A line that is put together from a tag, words and a quoted text (`Line.compose`) is read as just
these parts: the words are cut off one by one, whatever blanks stand between them
(`leadingWords_spaced`), and the rest is the quoted text as it was (`behind_compose`,
`unquote_quoted`).  So a parameter or an answer comes into the draft with the words and the text that
its line was composed from (`applyLine_composed`).
-/

namespace ApiScribe

namespace Text

theorem not_blank_of_any {cs : List Char} (h : cs.any isBlank = false) :
    ∀ c ∈ cs, isBlank c = false := by
  simpa using h

theorem dropWhile_of_head {p : Char → Bool} {cs : List Char} (h : ∀ c ∈ cs.head?, p c = false) :
    cs.dropWhile p = cs := by
  cases cs with
  | nil => rfl
  | cons c cs => exact List.dropWhile_cons_of_neg (by simp [h c rfl])

theorem dropEnd_of_last {p : Char → Bool} {cs : List Char} (h : ∀ c ∈ cs.getLast?, p c = false) :
    dropEnd p cs = cs := by
  rw [dropEnd, dropWhile_of_head (by rwa [List.head?_reverse]), List.reverse_reverse]

/-- Stripping takes away what stands around a text, and stops at the text. -/
theorem strip_around {p : Char → Bool} {before cs after : List Char} (hbefore : ∀ c ∈ before, p c)
    (hafter : ∀ c ∈ after, p c) (hhead : ∀ c ∈ cs.head?, p c = false)
    (hlast : ∀ c ∈ cs.getLast?, p c = false) : strip p (before ++ cs ++ after) = cs := by
  unfold strip
  rw [List.append_assoc, List.dropWhile_append_of_pos hbefore]
  rcases cs with _ | ⟨c, cs⟩
  · rw [List.nil_append, List.dropWhile_eq_nil_iff.mpr hafter, dropEnd_nil]
  · have hend : dropEnd p (c :: cs ++ after) = dropEnd p (c :: cs) := by
      unfold dropEnd
      rw [List.reverse_append, List.dropWhile_append_of_pos (by simpa using hafter)]
    rw [dropWhile_of_head (by rintro x ⟨⟩; exact hhead c rfl), hend, dropEnd_of_last hlast]

theorem trim_of_last {cs : List Char} (h : ∀ c ∈ cs.getLast?, isBlank c = false) :
    trim cs = cs.dropWhile isBlank := by
  obtain ⟨blanks, hcs⟩ := List.dropWhile_suffix (l := cs) isBlank
  refine dropEnd_of_last fun c hc => h c ?_
  rw [← hcs, List.getLast?_append, hc]
  rfl

theorem trim_eq_self {cs : List Char} (hhead : ∀ c ∈ cs.head?, isBlank c = false)
    (hlast : ∀ c ∈ cs.getLast?, isBlank c = false) : trim cs = cs := by
  rw [trim_of_last hlast, dropWhile_of_head hhead]

theorem word_append {w rest : List Char} (hw : ∀ c ∈ w, isBlank c = false)
    (hrest : ∀ c ∈ rest.head?, isBlank c) : word (w ++ rest) = w := by
  have hstop : rest.takeWhile (fun c => !isBlank c) = [] := by
    rcases rest with _ | ⟨c, rest⟩
    · rfl
    · exact List.takeWhile_cons_of_neg (by simp [hrest c rfl])
  unfold word
  rw [List.takeWhile_append_of_pos fun c hc => by simp [hw c hc], hstop, List.append_nil]

theorem afterWord_append {w rest : List Char} (hw : ∀ c ∈ w, isBlank c = false)
    (hrest : ∀ c ∈ rest.head?, isBlank c) : afterWord (w ++ rest) = rest := by
  have hsplit := word_append_afterWord (w ++ rest)
  rw [word_append hw hrest] at hsplit
  exact List.append_cancel_left hsplit

end Text

namespace Line

/-! ### The parts -/

/-- A word: characters that are not blank, one at least. -/
structure Token where
  text : String
  ne_nil : text.toList ≠ []
  not_blank : ∀ c ∈ text.toList, Text.isBlank c = false

/-- The blanks between two words, one at least. -/
structure Gap where
  text : String
  ne_nil : text.toList ≠ []
  blank : ∀ c ∈ text.toList, Text.isBlank c

/-- A text that no double quote begins or ends, so that it can be told from the quotes around it. -/
structure Quotable where
  text : String
  head_ne : text.toList.head? ≠ some '"'
  last_ne : text.toList.getLast? ≠ some '"'

def Quotable.quoted (message : Quotable) : List Char := '"' :: message.text.toList ++ ['"']

/-- Words, each with the blanks before it. -/
def spaced (parts : List (Gap × Token)) : List Char :=
  parts.flatMap fun (gap, word) => gap.text.toList ++ word.text.toList

/-- The line of a tag, words and a quoted text. -/
def compose (tag : String) (parts : List (Gap × Token)) (gap : Gap) (message : Quotable) : String :=
  String.ofList (tag.toList ++ (spaced parts ++ (gap.text.toList ++ message.quoted)))

/-! ### Reading the parts -/

variable {parts : List (Gap × Token)} {gap : Gap} {message : Quotable} {name : String}

theorem Gap.head_blank (gap : Gap) (rest : List Char) :
    ∀ c ∈ (gap.text.toList ++ rest).head?, Text.isBlank c := by
  rcases hgap : gap.text.toList with _ | ⟨b, bs⟩
  · exact absurd hgap gap.ne_nil
  · have hb := gap.blank b (by rw [hgap]; exact List.mem_cons_self)
    rintro c ⟨⟩
    exact hb

theorem spaced_cons (gap : Gap) (word : Token) (parts : List (Gap × Token)) (rest : List Char) :
    spaced ((gap, word) :: parts) ++ rest =
      gap.text.toList ++ (word.text.toList ++ (spaced parts ++ rest)) := by
  simp [spaced]

theorem head_blank_spaced (parts : List (Gap × Token)) {rest : List Char}
    (hrest : ∀ c ∈ rest.head?, Text.isBlank c) :
    ∀ c ∈ (spaced parts ++ rest).head?, Text.isBlank c := by
  rcases parts with _ | ⟨⟨gap, word⟩, parts⟩
  · exact hrest
  · rw [spaced_cons]
    exact gap.head_blank _

/-- **Words are read one by one**, and the blanks in front of what is left are dropped. -/
theorem leadingWords_spaced (parts : List (Gap × Token)) {rest : List Char}
    (hrest : ∀ c ∈ rest.head?, Text.isBlank c) :
    Text.leadingWords parts.length (spaced parts ++ rest) =
      (parts.map fun part => part.2.text.toList, rest.dropWhile Text.isBlank) := by
  unfold Text.leadingWords
  induction parts with
  | nil => rfl
  | cons part parts ih =>
    obtain ⟨gap, word⟩ := part
    let tail := spaced parts ++ rest
    have htail : ∀ c ∈ tail.head?, Text.isBlank c := head_blank_spaced parts hrest
    obtain ⟨c, cs, hword⟩ := List.exists_cons_of_ne_nil word.ne_nil
    have hc : Text.isBlank c = false := word.not_blank c (by simp [hword])
    have hdrop : (spaced ((gap, word) :: parts) ++ rest).dropWhile Text.isBlank =
        c :: (cs ++ tail) := by
      rw [spaced_cons, List.dropWhile_append_of_pos gap.blank, hword, List.cons_append,
        List.dropWhile_cons_of_neg (by simp [hc])]
    have hcut : c :: (cs ++ tail) = word.text.toList ++ tail := by rw [hword, List.cons_append]
    rw [hdrop, List.length_cons, Text.takeWords, hcut, Text.word_append word.not_blank htail,
      Text.afterWord_append word.not_blank htail, ih]
    rfl

theorem Quotable.not_blank_head (message : Quotable) :
    ∀ c ∈ message.quoted.head?, Text.isBlank c = false := by
  rintro c ⟨⟩
  decide

theorem Quotable.not_blank_last (message : Quotable) (before : List Char) :
    ∀ c ∈ (before ++ message.quoted).getLast?, Text.isBlank c = false := by
  have hlast : (before ++ message.quoted).getLast? = some '"' := by
    rw [quoted, ← List.append_assoc, List.getLast?_concat]
  rw [hlast]
  rintro c ⟨⟩
  decide

/-- **The text between the quotes is the text that was quoted.** -/
theorem unquote_quoted (message : Quotable) :
    Directive.unquote message.quoted = message.text.toList := by
  have htrim : Text.trim message.quoted = message.quoted :=
    Text.trim_eq_self message.not_blank_head (message.not_blank_last [])
  have hends : ∀ {end? : Option Char}, end? ≠ some '"' → ∀ c ∈ end?, (c == '"') = false := by
    rintro _ h c rfl
    simpa using h
  have hstrip : Text.strip (· == '"') (['"'] ++ message.text.toList ++ ['"']) = message.text.toList :=
    Text.strip_around (by simp) (by simp) (hends message.head_ne) (hends message.last_ne)
  unfold Directive.unquote
  dsimp only
  rw [htrim]
  exact hstrip

theorem not_blank_of_mem_tags (h : name ∈ tags) : ∀ c ∈ name.toList, Text.isBlank c = false := by
  have hany : ∀ tag ∈ tags, tag.toList.any Text.isBlank = false := by decide
  exact Text.not_blank_of_any (hany name h)

theorem text_compose (h : name ∈ tags) : text (compose name parts gap message) =
    name.toList ++ (spaced parts ++ (gap.text.toList ++ message.quoted)) := by
  have hne : ∀ tag ∈ tags, tag.toList ≠ [] := by decide
  have hlast := message.not_blank_last (name.toList ++ spaced parts ++ gap.text.toList)
  rw [text, compose, String.toList_ofList]
  refine Text.trim_eq_self ?_ (by simpa only [List.append_assoc] using hlast)
  rw [List.head?_append_of_ne_nil _ (hne name h)]
  exact fun c hc => not_blank_of_mem_tags h c (List.mem_of_mem_head? hc)

theorem tag_compose (h : name ∈ tags) : tag (compose name parts gap message) = name := by
  rw [tag, text_compose h, Text.word_append (not_blank_of_mem_tags h)
    (head_blank_spaced parts (gap.head_blank _)), String.ofList_toList]

theorem leadingWords_compose (h : name ∈ tags) :
    Text.leadingWords parts.length (rest (compose name parts gap message)) =
      (parts.map fun part => part.2.text.toList, message.quoted) := by
  have hblank := gap.head_blank message.quoted
  have hlast := message.not_blank_last (spaced parts ++ gap.text.toList)
  have hrest : rest (compose name parts gap message) =
      (spaced parts ++ (gap.text.toList ++ message.quoted)).dropWhile Text.isBlank := by
    rw [rest, text_compose h, Text.afterWord_append (not_blank_of_mem_tags h)
      (head_blank_spaced parts hblank), Text.trim_of_last]
    simpa only [List.append_assoc] using hlast
  have hquoted : (gap.text.toList ++ message.quoted).dropWhile Text.isBlank = message.quoted := by
    rw [List.dropWhile_append_of_pos gap.blank, Text.dropWhile_of_head message.not_blank_head]
  rw [Text.leadingWords, hrest, Text.dropWhile_of_head fun c => Text.isBlank_of_head?,
    ← Text.leadingWords, leadingWords_spaced parts hblank, hquoted]

theorem behind_compose (h : name ∈ tags) (parts : List (Gap × Token)) (gap : Gap)
    (message : Quotable) : behind parts.length (compose name parts gap message) = message.quoted := by
  rw [behind, leadingWords_compose h]

theorem words_compose (h : name ∈ tags) (parts : List (Gap × Token)) (gap : Gap)
    (message : Quotable) : ∃ more, words (compose name parts gap message) =
      (parts.map fun part => part.2.text.toList) ++ more := by
  refine ⟨(words (compose name parts gap message)).drop parts.length, ?_⟩
  have htake : (words (compose name parts gap message)).take parts.length =
      parts.map fun part => part.2.text.toList := by
    have hread := leadingWords_rest parts.length (compose name parts gap message)
    rw [leadingWords_compose h] at hread
    exact (congrArg Prod.fst hread).symm
  rw [← htake, List.take_append_drop]

/-! ### Parameters and answers -/

theorem says_parameter (g₁ g₂ g₃ g₄ gap : Gap) (name location type flag : Token)
    (message : Quotable) :
    Says (compose "@Param" [(g₁, name), (g₂, location), (g₃, type), (g₄, flag)] gap message)
      (.parameter name.text location.text type.text (Directive.isRequiredFlag flag.text.toList)
        message.text) := by
  let parts := [(g₁, name), (g₂, location), (g₃, type), (g₄, flag)]
  have htag : "@Param" ∈ tags := by decide
  obtain ⟨more, hwords⟩ := words_compose htag parts gap message
  have hbehind : behind 4 (compose "@Param" parts gap message) = message.quoted :=
    behind_compose htag parts gap message
  have hsaid := Says.parameter (tag_compose htag) hwords
  rw [hbehind, unquote_quoted] at hsaid
  simpa only [String.ofList_toList] using hsaid

theorem says_response {tag : String} (htag : tag = "@Success" ∨ tag = "@Failure")
    (g₁ g₂ g₃ gap : Gap) {code : Token} {n : Int32} (hcode : Text.Signed code.text.toList n.toInt)
    (marker type : Token) (message : Quotable) :
    Says (compose tag [(g₁, code), (g₂, marker), (g₃, type)] gap message)
      (.response n marker.text type.text message.text) := by
  let parts := [(g₁, code), (g₂, marker), (g₃, type)]
  have hmem : tag ∈ tags := by rcases htag with rfl | rfl <;> decide
  obtain ⟨more, hwords⟩ := words_compose hmem parts gap message
  have hbehind : behind 3 (compose tag parts gap message) = message.quoted :=
    behind_compose hmem parts gap message
  have hsaid := Says.response (by rwa [tag_compose hmem]) hwords hcode
  rw [hbehind, unquote_quoted] at hsaid
  simpa only [String.ofList_toList] using hsaid

end Line

theorem Directive.isRequiredFlag_toList (flag : String) : Directive.isRequiredFlag flag.toList =
    decide (flag.toLower = "true" ∨ flag.toLower = "required") := by
  have hlower : String.ofList (flag.toList.map Char.toLower) = flag.toLower := by
    show _ = flag.map Char.toLower
    rw [← String.toList_inj, String.toList_ofList, String.toList_map]
  unfold isRequiredFlag
  dsimp only
  rw [hlower, Bool.decide_or, beq_eq_decide, beq_eq_decide]

def Resolved.name : Resolved → String
  | .primitive name => name
  | .model found _ => found.id

def Resolved.modelId : Resolved → String
  | .primitive _ => ""
  | .model found _ => found.id

namespace Draft

variable {σ : Type}

theorem name_refOf (type : String) (found : Resolved) :
    (refOf type (some found)).name = found.name := by
  cases found <;> rfl

theorem modelId_refOf (type : String) (found : Resolved) :
    (refOf type (some found)).modelId = found.modelId := by
  cases found <;> rfl

/-- What a type name stands for: a basic one for itself, and any other for what is found. -/
def meaning (types : Lookup σ) (d : Draft) (type : String) (s : σ) : Except Error Resolved :=
  if TypeName.IsLookedUp type then (types type d.package s).1 else .ok (.primitive type)

/-- **A parameter or an answer comes into the draft as its line was composed.**  If its type is to be
looked up and the lookup fails, so does the line, and the draft stays as it is. -/
theorem applyLine_composed (types : Lookup σ) (d : Draft) (s : σ) (message : Line.Quotable) :
    (∀ (g₁ g₂ g₃ g₄ gap : Line.Gap) (name location type flag : Line.Token),
      let line :=
        Line.compose "@Param" [(g₁, name), (g₂, location), (g₃, type), (g₄, flag)] gap message
      let ran := (applyLine types d line s).1
      match meaning types d type.text s with
      | .ok found => ran.1 = .ok () ∧ ran.2.operation.parameters = d.operation.parameters ++
          [{ name := name.text, location := location.text, description := message.text
             dataType := found.name, type := found.name
             required := flag.text.toLower = "true" ∨ flag.text.toLower = "required" }]
      | .error e => ran = (.error e, d)) ∧
    (∀ (g₁ g₂ g₃ gap : Line.Gap) (tag : String) (code marker type : Line.Token) (n : Int32),
      tag = "@Success" ∨ tag = "@Failure" → Text.Signed code.text.toList n.toInt →
      let line := Line.compose tag [(g₁, code), (g₂, marker), (g₃, type)] gap message
      let ran := (applyLine types d line s).1
      let isModel := marker.text = "\x7bobject\x7d" ∨ marker.text = "\x7barray\x7d"
      match if n = 200 ∧ isModel then meaning types d type.text s else .ok (.primitive type.text) with
      | .ok found => ran.1 = .ok () ∧ ran.2.operation.responseMessages =
          d.operation.responseMessages ++ [{ code := n, message := message.text, responseModel :=
            if n = 200 then found.modelId else "" }]
      | .error e => ran = (.error e, d)) := by
  constructor
  · intro g₁ g₂ g₃ g₄ gap name location type flag line ran
    have hsaid := Line.says_parameter g₁ g₂ g₃ g₄ gap name location type flag message
    simp only [ran, line, applyLine_of_directive types d s hsaid, Directive.asked?_parameter,
      meaning, Directive.isRequiredFlag_toList]
    by_cases htype : TypeName.IsLookedUp type.text
    · rw [if_pos htype, if_pos htype]
      dsimp only
      rcases types type.text d.package s with ⟨e | found, s'⟩
      · rfl
      · dsimp only
        rw [← name_refOf type.text found]
        exact ⟨rfl, rfl⟩
    · rw [if_neg htype, if_neg htype]
      exact ⟨rfl, rfl⟩
  · intro g₁ g₂ g₃ gap tag code marker type n htag hcode line ran isModel
    have hsaid := Line.says_response htag g₁ g₂ g₃ gap hcode marker type message
    simp only [ran, line, applyLine_of_directive types d s hsaid, Directive.asked?_response, meaning]
    by_cases hmodel : n = 200 ∧ isModel
    · rw [if_pos hmodel]
      by_cases htype : TypeName.IsLookedUp type.text
      · rw [if_pos htype, if_pos ⟨hmodel.1, hmodel.2, htype⟩]
        dsimp only
        rcases types type.text d.package s with ⟨e | found, s'⟩
        · rfl
        · dsimp only
          rw [← modelId_refOf type.text found]
          exact ⟨rfl, (performedOn_adds d.operation (some found) _).2.1⟩
      · rw [if_neg htype, if_neg fun hall => htype hall.2.2]
        exact ⟨rfl, (performedOn_adds d.operation none _).2.1⟩
    · rw [if_neg hmodel, if_neg fun hall => hmodel ⟨hall.1, hall.2.1⟩]
      exact ⟨rfl, (performedOn_adds d.operation none _).2.1⟩

def space : Line.Gap := ⟨" ", by decide, List.all_eq_true.mp (by decide)⟩

def okCode : Line.Token := ⟨"200", by decide, Text.not_blank_of_any (by decide)⟩

def notFoundCode : Line.Token := ⟨"404", by decide, Text.not_blank_of_any (by decide)⟩

def objectMarker : Line.Token := ⟨"\x7bobject\x7d", by decide, Text.not_blank_of_any (by decide)⟩

def orderType : Line.Token := ⟨"Order", by decide, Text.not_blank_of_any (by decide)⟩

/-- The quotes in the middle are part of the text, and so are the line feed and the tag behind it. -/
def lostOrder : Line.Quotable := ⟨"order \"42\" is lost,\n@Failure or not", by decide, by decide⟩

/-- An answer about an order, or the lack of it. -/
def answerLine (tag : String) (code : Line.Token) : String :=
  Line.compose tag [(space, code), (space, objectMarker), (space, orderType)] space lostOrder

theorem applyLine_composed_lostOrder :
    Text.Signed notFoundCode.text.toList (404 : Int32).toInt ∧
      (applyLine bareModel (start "shop") (answerLine "@Failure" notFoundCode)
        ()).1.2.operation.responseMessages = [{ code := 404, message := lostOrder.text }] := by
  have hcode : Text.Signed notFoundCode.text.toList (404 : Int32).toInt := Text.signed_toString 404
  have hran := (applyLine_composed bareModel (start "shop") () lostOrder).2 space space space space
    "@Failure" notFoundCode objectMarker orderType 404 (Or.inr rfl) hcode
  dsimp only at hran
  rw [if_neg (by decide)] at hran
  exact ⟨hcode, hran.2⟩

/-- An answer is not added if its type is not found. -/
theorem applyLine_composed_unknown :
    ¬ ∀ (g₁ g₂ g₃ gap : Line.Gap) (code marker type : Line.Token) (n : Int32)
        (message : Line.Quotable), Text.Signed code.text.toList n.toInt →
      let line := Line.compose "@Success" [(g₁, code), (g₂, marker), (g₃, type)] gap message
      let ran := (applyLine InPlace.nothingFound (start "shop") line 0).1
      ∃ model, ran.2.operation.responseMessages =
        [{ code := n, message := message.text, responseModel := model }] := by
  intro h
  have hcode : Text.Signed okCode.text.toList (200 : Int32).toInt := Text.signed_toString 200
  obtain ⟨model, hresponses⟩ :=
    h space space space space okCode objectMarker orderType 200 lostOrder hcode
  have hnone : (applyLine InPlace.nothingFound (start "shop") (answerLine "@Success" okCode)
      0).1.2.operation.responseMessages = [] := by
    decide +kernel
  cases hnone.symm.trans hresponses

end Draft

end ApiScribe
