import ApiScribe.Proofs.Package.Answer
import ApiScribe.Proofs.Source.Attachment
import ApiScribe.Proofs.Source.Words
import Mathlib.Logic.Relation

/-!
# Comment lines

The comment lines of a unit, and those of the comments of its functions (`SourceUnit.HasLine`), have
no blanks around them (`Language.read_lines`).  In Go each of them is one line of a comment.  In Rust
each of them is one documentation text, however many lines it has:

* `RustToken.Writes` — what a piece of a source writes as a documentation text: a line comment, a
  block comment or a string;
* `RustToken.Occurs` — a documentation text of a source;
* `RustToken.Writes.oneLine` — a line comment writes a text of one line.
-/

namespace ApiScribe

/-- A line among the comments of a unit, or in the comment of a function. -/
def SourceUnit.HasLine (u : SourceUnit) (line : String) : Prop :=
  line ∈ u.comments ∨ ∃ f ∈ u.functions, line ∈ f.doc

/-! ### Trimmed lines -/

namespace Text

structure IsTrimmed (s : String) : Prop where
  head : ∀ c ∈ s.toList.head?, isBlank c = false
  last : ∀ c ∈ s.toList.getLast?, isBlank c = false

def IsOneLine (s : String) : Prop := '\n' ∉ s.toList

theorem not_of_head?_dropWhile {p : Char → Bool} {cs : List Char} {c : Char}
    (h : c ∈ (cs.dropWhile p).head?) : p c = false := by
  have hhead := List.head?_dropWhile_not p cs
  rw [Option.mem_def.mp h] at hhead
  simpa using hhead

theorem isPrefix_dropEnd (p : Char → Bool) (cs : List Char) : dropEnd p cs <+: cs := by
  have hsuffix := List.dropWhile_suffix (l := cs.reverse) p
  rw [← List.reverse_prefix, List.reverse_reverse] at hsuffix
  exact hsuffix

theorem isTrimmed_trim (cs : List Char) : IsTrimmed (String.ofList (trim cs)) where
  head := by
    intro c hc
    rw [String.toList_ofList] at hc
    obtain ⟨rest, hrest⟩ := isPrefix_dropEnd isBlank (cs.dropWhile isBlank)
    have hhead : (dropEnd isBlank (cs.dropWhile isBlank)).head? = some c := hc
    have hwhole : c ∈ (cs.dropWhile isBlank).head? := by
      rw [← hrest, Option.mem_def, List.head?_append, hhead]
      rfl
    exact not_of_head?_dropWhile hwhole
  last := by
    intro c hc
    rw [String.toList_ofList] at hc
    unfold trim strip dropEnd at hc
    rw [List.getLast?_reverse] at hc
    exact not_of_head?_dropWhile hc

theorem trim_subset (cs : List Char) : trim cs ⊆ cs := by
  have hend := (isPrefix_dropEnd isBlank (cs.dropWhile isBlank)).sublist
  exact (hend.trans (List.dropWhile_sublist _)).subset

theorem isOneLine_trim {cs : List Char} (h : '\n' ∉ cs) : IsOneLine (String.ofList (trim cs)) := by
  unfold IsOneLine
  rw [String.toList_ofList]
  exact fun hmem => h (trim_subset cs hmem)

theorem not_mem_of_mem_lines {cs line : List Char} (h : line ∈ lines cs) : '\n' ∉ line := by
  have hpiece : ∀ w ∈ pieces (· == '\n') cs, '\n' ∉ w := by
    intro w hw hmem
    simpa using not_of_mem_pieces hw '\n' hmem
  have hclosed : ∀ w ∈ (pieces (· == '\n') cs).dropLast.map dropReturn, '\n' ∉ w := by
    intro w hw hmem
    obtain ⟨v, hv, rfl⟩ := List.mem_map.mp hw
    refine hpiece v ((List.dropLast_sublist _).subset hv) ?_
    unfold dropReturn at hmem
    split at hmem
    · exact (List.dropLast_sublist v).subset hmem
    · exact hmem
  unfold lines at h
  dsimp only at h
  split at h
  · rename_i c r hlast
    rcases List.mem_append.mp h with h | h
    · exact hclosed line h
    · rw [List.mem_singleton.mp h]
      exact hpiece _ (List.mem_of_getLast? hlast)
  · exact hclosed line h

theorem trim_concat_blank {c : Char} (hc : isBlank c = true) (cs : List Char) :
    trim (cs ++ [c]) = trim cs := by
  unfold trim strip
  rw [List.dropWhile_append]
  split
  · rename_i hempty
    rw [List.isEmpty_iff.mp hempty, List.dropWhile_cons_of_pos hc]
    rfl
  · unfold dropEnd
    rw [List.reverse_append, List.reverse_singleton, List.singleton_append,
      List.dropWhile_cons_of_pos hc]

theorem trim_dropReturn (cs : List Char) : trim (dropReturn cs) = trim cs := by
  unfold dropReturn
  split
  · rename_i hlast
    obtain ⟨front, rfl⟩ := List.getLast?_eq_some_iff.mp hlast
    rw [List.dropLast_concat, trim_concat_blank (by decide)]
  · rfl

/-- Lines that are joined are read back, with the carriage returns at their ends perhaps taken
off. -/
theorem lines_intercalate {ls : List (List Char)} (h : ∀ l ∈ ls, '\n' ∉ l)
    (hlast : ∀ l ∈ ls.getLast?, l ≠ []) :
    (lines (List.intercalate ['\n'] ls)).map trim = ls.map trim := by
  rcases List.eq_nil_or_concat' ls with rfl | ⟨front, last, rfl⟩
  · rfl
  · have hsplit : pieces (· == '\n') (List.intercalate ['\n'] (front ++ [last])) = front ++ [last] := by
      rw [pieces_eq_splitOnP, ← List.splitOn_eq_splitOnP]
      exact List.splitOn_intercalate '\n' h (by simp)
    have hne : last ≠ [] := hlast last (by simp)
    obtain ⟨c, r, rfl⟩ := List.exists_cons_of_ne_nil hne
    unfold lines
    simp [hsplit, trim_dropReturn]

end Text

/-! ### Go -/

namespace GoToken

/-- The text of a comment with its markers. -/
inductive IsComment : List Char → Prop
  | line {body : List Char} (h : '\n' ∉ body) : IsComment ('/' :: '/' :: body)
  | block (body : List Char) : IsComment ('/' :: '*' :: body)

theorem isComment_of_scan {c : Char} {cs word : List Char}
    (h : (scan c cs).1 = .token .comment word) : IsComment word := by
  unfold scan at h
  split at h
  · cases h
  split at h
  · cases h
  split at h
  · dsimp only at h
    split at h
    · cases h
    · cases h
  split at h
  · cases h
  split at h
  · cases h
  split at h
  · cases h
  split at h
  · cases h
  split at h
  · cases h
  split at h
  · cases h
    refine .line fun hmem => ?_
    simpa using List.mem_takeWhile_imp hmem
  · cases h
    exact .block _
  · cases h
  · cases h
  · split at h
    · cases h
    · cases h
  · cases h

theorem isComment_of_mem_ofSource {cs : List Char} {t : GoToken} (h : t ∈ ofSource cs)
    (hkind : t.kind = .comment) : IsComment t.text.toList := by
  obtain ⟨c, rest, word, hscan, htext⟩ := exists_scan_of_mem_ofSource h (by simp [hkind])
  rw [htext, String.toList_ofList]
  rw [hkind] at hscan
  exact isComment_of_scan hscan

end GoToken

namespace GoUnit

/-- A line of a block comment without the stars in front of it. -/
def withoutStars (line : List Char) : String :=
  String.ofList (Text.trim ((Text.trim line).dropWhile (· == '*')))

theorem isOneLine_withoutStars {line : List Char} (h : '\n' ∉ line) :
    Text.IsOneLine (withoutStars line) := by
  refine Text.isOneLine_trim fun hmem => h ?_
  exact Text.trim_subset line ((List.dropWhile_sublist _).subset hmem)

theorem commentLines_block (body : List Char) :
    ∃ inside, commentLines (String.ofList ('/' :: '*' :: body)) =
      (Text.lines inside).map withoutStars := by
  unfold commentLines
  rw [String.toList_ofList]
  exact ⟨_, rfl⟩

theorem isTrimmed_of_mem_commentLines {raw line : String} (h : line ∈ commentLines raw) :
    Text.IsTrimmed line := by
  unfold commentLines at h
  split at h
  · rw [List.mem_singleton.mp h]
    exact Text.isTrimmed_trim _
  · obtain ⟨l, -, rfl⟩ := List.mem_map.mp h
    exact Text.isTrimmed_trim _
  · rw [List.mem_singleton.mp h]
    exact Text.isTrimmed_trim _

theorem isOneLine_of_mem_commentLines {raw line : String} (hraw : GoToken.IsComment raw.toList)
    (h : line ∈ commentLines raw) : Text.IsOneLine line := by
  obtain ⟨cs, rfl⟩ : ∃ cs, raw = String.ofList cs := ⟨raw.toList, String.ofList_toList.symm⟩
  rw [String.toList_ofList] at hraw
  cases hraw with
  | @line body hbody =>
    unfold commentLines at h
    rw [String.toList_ofList] at h
    rw [List.mem_singleton.mp h]
    exact Text.isOneLine_trim hbody
  | block body =>
    obtain ⟨inside, hinside⟩ := commentLines_block body
    rw [hinside] at h
    obtain ⟨l, hl, rfl⟩ := List.mem_map.mp h
    exact isOneLine_withoutStars (Text.not_mem_of_mem_lines hl)

/-- The lines of a block comment come one by one, in their order. -/
theorem commentLines_intercalate {ls : List (List Char)} (h : ∀ l ∈ ls, '\n' ∉ l)
    (hlast : ∀ l ∈ ls.getLast?, l ≠ []) :
    commentLines (String.ofList ("/*".toList ++ List.intercalate ['\n'] ls ++ "*/".toList)) =
      ls.map withoutStars := by
  have hlines := Text.lines_intercalate h hlast
  unfold commentLines
  rw [String.toList_ofList]
  simp only [String.reduceToList, List.cons_append, List.nil_append, List.reverse_append,
    List.reverse_cons, List.reverse_nil, List.reverse_reverse]
  have hmap := congrArg (List.map fun l => String.ofList (Text.trim (l.dropWhile (· == '*')))) hlines
  rw [List.map_map, List.map_map] at hmap
  exact hmap

/-- Some item of a comment among trees. -/
def IsCommentOf (ts : List GoTree) (lines : List String) : Prop :=
  ∃ t ∈ Tree.tokensIn ts, t.kind = .comment ∧ lines = commentLines t.text

theorem IsCommentOf.mono {ts us : List GoTree} {lines : List String} (h : IsCommentOf ts lines)
    (hsubset : ts ⊆ us) : IsCommentOf us lines := by
  obtain ⟨t, ht, hkind⟩ := h
  exact ⟨t, Tree.tokensIn_mono hsubset ht, hkind⟩

theorem isCommentOf_commentItem {t : GoTree} {ts : List GoTree} {lines : List String}
    {row lastRow : ℕ} (h : commentItem t.first = .comment lines row lastRow)
    (hcomment : t.isComment = true) (ht : t ∈ ts) : IsCommentOf ts lines := by
  cases t with
  | group d opening closing items => cases hcomment
  | leaf token =>
    cases h
    refine ⟨token, Tree.mem_tokensIn.mpr ⟨_, ht, List.mem_singleton_self _⟩, ?_, rfl⟩
    simpa [GoTree.isComment] using hcomment

theorem isCommentOf_of_mem_flush {pending : List GoTree} {lines : List String} {row lastRow : ℕ}
    (h : .comment lines row lastRow ∈ flush pending) : IsCommentOf pending lines := by
  unfold flush at h
  dsimp only at h
  rcases List.mem_append.mp h with h | h
  · split at h
    · cases h
    · cases List.mem_singleton.mp h
  · obtain ⟨t, ht, heq⟩ := List.mem_map.mp h
    have ht := List.mem_reverse.mp ht
    have hpending : t ∈ pending := List.mem_reverse.mp ((List.takeWhile_sublist _).subset ht)
    exact isCommentOf_commentItem heq (List.mem_takeWhile_imp ht) hpending

/-- The comments on the top level are comments among the trees. -/
theorem isCommentOf_of_mem_items {pending ts : List GoTree} {lines : List String}
    {row lastRow : ℕ} (h : .comment lines row lastRow ∈ items pending ts) :
    IsCommentOf (pending ++ ts) lines := by
  induction ts generalizing pending with
  | nil => exact (isCommentOf_of_mem_flush h).mono (List.subset_append_left _ _)
  | cons t ts ih =>
    have hrest : .comment lines row lastRow ∈ items [] ts → IsCommentOf (pending ++ t :: ts) lines := by
      intro h
      exact (ih h).mono (by simp)
    unfold items at h
    split at h
    · rcases List.mem_append.mp h with h | h
      · exact (isCommentOf_of_mem_flush h).mono (List.subset_append_left _ _)
      · exact hrest h
    · split at h
      · rename_i hcomment
        rcases List.mem_cons.mp h with h | h
        · exact isCommentOf_commentItem h.symm (Bool.and_eq_true_iff.mp hcomment).2 (by simp)
        · exact hrest h
      · simpa using ih h

theorem comment_of_mem_topLevel {source : List Char} {i : Item} (h : i ∈ topLevel source)
    {line : String} (hline : line ∈ i.lines) :
    ∃ t ∈ GoToken.ofSource source, t.kind = .comment ∧ i.lines = commentLines t.text := by
  cases i with
  | declaration row trees => cases hline
  | comment lines row lastRow =>
    obtain ⟨t, ht, hkind, hlines⟩ := isCommentOf_of_mem_items h
    refine ⟨t, ?_, hkind, hlines⟩
    rw [List.nil_append] at ht
    exact Tree.mem_of_ofTokens ht

theorem before_subset_of_mem_declarationsFrom {before is : List Item} {d : Placed}
    (h : d ∈ declarationsFrom before is) : d.before ⊆ before ++ is := by
  induction is generalizing before with
  | nil => cases h
  | cons i is ih =>
    cases i with
    | comment lines row lastRow => simpa using ih h
    | declaration row trees =>
      rcases List.mem_cons.mp h with rfl | h
      · exact List.subset_append_left _ _
      · simpa using ih h

/-- The lines of the comment of a function are lines of the comments before it. -/
theorem doc_subset_comments {path source : String} {f : FunctionDecl}
    (h : f ∈ (read path source).functions) : f.doc ⊆ (read path source).comments := by
  have hcomments := comments_collect source.toList { path } none (topLevel source.toList)
  have hfunctions := functions_collect source.toList { path } [] (topLevel source.toList)
  have hread : read path source =
    collect source.toList { path } (blockAfter []) (topLevel source.toList) := rfl
  rw [hread, hfunctions] at h
  obtain ⟨d, hd, hdeclared⟩ := List.mem_filterMap.mp h
  rw [function?_eq] at hdeclared
  obtain ⟨f', -, rfl⟩ := Option.map_eq_some_iff.mp hdeclared
  obtain ⟨run, hrun, hdoc⟩ := attached_iff.mpr (rfl : (blockAfter d.before).above d.row = _)
  intro line hline
  rcases hdoc with ⟨-, hdoc⟩ | ⟨-, hdoc⟩
  · rw [hdoc] at hline
    obtain ⟨i, hi, hline⟩ := List.mem_flatMap.mp hline
    have htop := before_subset_of_mem_declarationsFrom hd (hrun.suffix.subset hi)
    rw [hread, show blockAfter [] = none from rfl, hcomments]
    exact List.mem_append_right _ (List.mem_flatMap.mpr ⟨i, htop, hline⟩)
  · rw [hdoc] at hline
    cases hline

/-- A comment line of a Go source is a line of one of its comments, and all lines of this comment
stand together. -/
theorem comment_of_mem_comments {path source line : String}
    (h : line ∈ (read path source).comments) :
    ∃ t ∈ GoToken.ofSource source.toList, t.kind = .comment ∧ line ∈ commentLines t.text ∧
      commentLines t.text <:+: (read path source).comments := by
  have hcomments : (read path source).comments = (topLevel source.toList).flatMap Item.lines :=
    comments_collect source.toList { path } none (topLevel source.toList)
  rw [hcomments] at h
  obtain ⟨i, hi, hline⟩ := List.mem_flatMap.mp h
  obtain ⟨t, ht, hkind, hlines⟩ := comment_of_mem_topLevel hi hline
  refine ⟨t, ht, hkind, hlines ▸ hline, ?_⟩
  obtain ⟨before, after, hsplit⟩ := List.append_of_mem hi
  refine ⟨before.flatMap Item.lines, after.flatMap Item.lines, ?_⟩
  rw [hcomments, hsplit, ← hlines]
  simp

end GoUnit

/-! ### Rust -/

namespace RustToken

/-- Reading goes on from one rest of a text to another. -/
def Reaches : List Char → List Char → Prop :=
  Relation.ReflTransGen fun cs rest => ∃ ts, next cs = some (ts, rest)

/-- How a documentation text is written. -/
inductive Form where
  | lineComment
  | blockComment
  | literal
  deriving DecidableEq

/-- The documentation text that a piece of a source writes. -/
inductive Writes : Form → List Char → String → Prop
  | lineComment {c : Char} {cs : List Char} (hc : c = '/' ∨ c = '!') :
    Writes .lineComment ('/' :: '/' :: c :: cs) (String.ofList (restOfLine cs).1)
  | blockComment {c : Char} {cs value rest : List Char} (hc : c = '*' ∨ c = '!')
      (h : RustToken.blockComment 0 cs = some (value, rest)) :
    Writes .blockComment ('/' :: '*' :: c :: cs) (String.ofList value)
  | literal {c : Char} {cs rest : List Char} {value : String} (hc : c = '"' ∨ c = 'r')
      (h : next (c :: cs) = some ([text value], rest)) : Writes .literal (c :: cs) value

/-- A documentation text of a source, in a piece that reading comes to. -/
def Occurs (source : List Char) (form : Form) (value : String) : Prop :=
  ∃ piece ts rest, Reaches (withoutHeader source) piece ∧ next piece = some (ts, rest) ∧
    text value ∈ ts ∧ Writes form piece value

theorem not_mem_restOfLine (cs : List Char) : '\n' ∉ (restOfLine cs).1 := by
  fun_induction restOfLine cs with
  | case1 => simp
  | case2 => simp
  | case3 => simp
  | case4 c cs hnewline _ a b heq ih =>
    rw [heq] at ih
    intro hmem
    rcases List.mem_cons.mp hmem with rfl | hmem
    · exact hnewline rfl
    · exact ih hmem

/-- Only block comments and literals have several lines. -/
theorem Writes.oneLine {form : Form} {piece : List Char} {value : String}
    (h : Writes form piece value) (hform : form = .lineComment) :
    Text.IsOneLine (Text.trimmed value) := by
  cases h with
  | lineComment hc =>
    refine Text.isOneLine_trim ?_
    rw [String.toList_ofList]
    exact not_mem_restOfLine _
  | blockComment hc h => cases hform
  | literal hc h => cases hform

theorem value_of_docAttribute {inner : Bool} {cs rest rest' : List Char} {ts : List RustToken}
    (h : (docAttribute inner cs).map (fun ts => (ts, rest')) = some (ts, rest)) {value : String}
    (hvalue : text value ∈ ts) : value = String.ofList cs := by
  obtain ⟨us, hus, heq⟩ := Option.map_eq_some_iff.mp h
  cases heq
  unfold docAttribute at hus
  split at hus
  · cases hus
    cases inner <;> simpa using hvalue
  · cases hus

theorem not_mem_literal {x : Option (List Char × Rest)} {ts : List RustToken} {rest : Rest}
    (h : otherLiteral x = some (ts, rest)) (value : String) : text value ∉ ts := by
  obtain ⟨⟨v, r⟩, -, heq⟩ := Option.map_eq_some_iff.mp h
  cases heq
  simp

theorem not_mem_quote {cs : List Char} {ts : List RustToken} {rest : Rest}
    (h : quote cs = some (ts, rest)) (value : String) : text value ∉ ts := by
  unfold quote at h
  split at h
  · cases h
    simp
  · split at h
    · split at h
      · cases h
      · cases h
        simp
    · cases h

theorem not_mem_word {cs : List Char} {ts : List RustToken} {rest : Rest}
    (h : (word cs).map (fun (w, rest) => ([name w], rest)) = some (ts, rest)) (value : String) :
    text value ∉ ts := by
  obtain ⟨⟨w, r⟩, -, heq⟩ := Option.map_eq_some_iff.mp h
  cases heq
  simp

theorem eq_textToken {x : Option (List Char × Rest)} {ts : List RustToken} {rest : Rest}
    (h : textToken x = some (ts, rest)) {value : String} (hvalue : text value ∈ ts) :
    ts = [text value] := by
  obtain ⟨⟨v, r⟩, -, heq⟩ := Option.map_eq_some_iff.mp h
  cases heq
  rw [List.mem_singleton.mp hvalue]

/-- A text among the tokens that a piece starts with is one that the piece writes. -/
theorem exists_writes {piece : List Char} {ts : List RustToken} {rest : Rest}
    (h : next piece = some (ts, rest)) {value : String} (hvalue : text value ∈ ts) :
    ∃ form, Writes form piece value := by
  have hread := h
  -- The cases are those of `next` in their order; most of them have no text among their tokens.
  unfold next at h
  split at h
  · cases h; cases hvalue
  · rw [value_of_docAttribute h hvalue]
    exact ⟨_, .lineComment (Or.inl rfl)⟩
  · rw [value_of_docAttribute h hvalue]
    exact ⟨_, .lineComment (Or.inr rfl)⟩
  · cases h; cases hvalue
  · cases h; cases hvalue
  · obtain ⟨_, -, heq⟩ := Option.map_eq_some_iff.mp h
    cases heq; cases hvalue
  · split at h
    · rename_i hcomment
      rw [value_of_docAttribute h hvalue]
      exact ⟨_, .blockComment (Or.inl rfl) hcomment⟩
    · cases h
  · split at h
    · rename_i hcomment
      rw [value_of_docAttribute h hvalue]
      exact ⟨_, .blockComment (Or.inr rfl) hcomment⟩
    · cases h
  · obtain ⟨_, -, heq⟩ := Option.map_eq_some_iff.mp h
    cases heq; cases hvalue
  · rw [eq_textToken h hvalue] at hread
    exact ⟨_, .literal (Or.inl rfl) hread⟩
  · rw [eq_textToken h hvalue] at hread
    exact ⟨_, .literal (Or.inr rfl) hread⟩
  · exact absurd hvalue (not_mem_literal h value)
  · exact absurd hvalue (not_mem_literal h value)
  · exact absurd hvalue (not_mem_literal h value)
  · exact absurd hvalue (not_mem_literal h value)
  · exact absurd hvalue (not_mem_literal h value)
  · exact absurd hvalue (not_mem_literal h value)
  · obtain ⟨_, -, heq⟩ := Option.map_eq_some_iff.mp h
    cases heq; simp at hvalue
  · exact absurd hvalue (not_mem_quote h value)
  · split at h
    · rw [eq_textToken h hvalue] at hread
      exact ⟨_, .literal (Or.inr rfl) hread⟩
    · split at h
      · cases h
      · exact absurd hvalue (not_mem_word h value)
  · split at h
    · cases h; cases hvalue
    · split at h
      · split at h
        · dsimp only at h
          split at h
          · cases h
          · cases h; simp at hvalue
        · cases h
      · split at h
        · cases h; simp at hvalue
        · split at h
          · cases h; simp at hvalue
          · exact absurd hvalue (not_mem_word h value)
  · cases h

/-- A token of a text is one of those that some piece starts with to which reading comes. -/
theorem exists_piece_of_mem_scan {fuel : ℕ} {cs : List Char} {ts : List RustToken}
    (h : scan fuel cs = some ts) {t : RustToken} (ht : t ∈ ts) :
    ∃ piece us rest, Reaches cs piece ∧ next piece = some (us, rest) ∧ t ∈ us := by
  induction fuel generalizing cs ts with
  | zero =>
    cases cs with
    | nil => cases h; cases ht
    | cons c cs => cases h
  | succ fuel ih =>
    cases cs with
    | nil => cases h; cases ht
    | cons c cs =>
      unfold scan at h
      split at h
      · rename_i us r hnext
        obtain ⟨vs, hvs, rfl⟩ := Option.map_eq_some_iff.mp h
        rcases List.mem_append.mp ht with ht | ht
        · exact ⟨_, us, r, .refl, hnext, ht⟩
        · obtain ⟨piece, ws, rest, hreaches, hpiece⟩ := ih hvs ht
          exact ⟨piece, ws, rest, hreaches.head ⟨us, hnext⟩, hpiece⟩
      · cases h

theorem exists_occurs {source : List Char} {ts : List RustToken} (h : ofSource? source = some ts)
    {value : String} (hvalue : text value ∈ ts) : ∃ form, Occurs source form value := by
  obtain ⟨piece, us, rest, hreaches, hnext, hmem⟩ := exists_piece_of_mem_scan h hvalue
  obtain ⟨form, hform⟩ := exists_writes hnext hmem
  exact ⟨form, piece, us, rest, hreaches, hnext, hmem, hform⟩

end RustToken

namespace RustUnit

open RustGrammar

/-- A line is the documentation text that stands in a phrase, trimmed. -/
def Says (p : RustPhrase) (line : String) : Prop :=
  ∃ value, .text value ∈ p.tokens ∧ line = Text.trimmed value

theorem Says.mono {p q : RustPhrase} {line : String} (h : Says p line) (hsubset : p.tokens ⊆ q.tokens) :
    Says q line := by
  obtain ⟨value, hvalue, hline⟩ := h
  exact ⟨value, hsubset hvalue, hline⟩

theorem says_of_part {p q : RustPhrase} {line : String} (hq : q ∈ p.parts) (h : Says q line) :
    Says p line := h.mono (Phrase.tokens_subset_of_mem_parts hq)

theorem says_docLine {p : RustPhrase} {line : String} (h : docLine? p = some line) : Says p line := by
  unfold docLine? at h
  split at h
  · rename_i value heq
    cases h
    refine ⟨value, ?_, rfl⟩
    have htree : Tree.leaf (RustToken.text value) ∈ p.trees := by
      refine (List.dropWhile_sublist _).subset (?_ : _ ∈ content p)
      simp [heq]
    exact mem_of_mem_trees htree (List.mem_singleton_self _)
  · cases h

theorem says_of_mem_docLines {p : RustPhrase} {attributes : List RustPhrase}
    (hattributes : ∀ a ∈ attributes, a.tokens ⊆ p.tokens) {line : String}
    (h : line ∈ docLines attributes) : Says p line := by
  obtain ⟨a, ha, hline⟩ := List.mem_filterMap.mp h
  exact (says_docLine hline).mono (hattributes a ha)

theorem mem_parts_of_mem_all {p q : RustPhrase} {k : Name} (h : q ∈ p.all k) : q ∈ p.parts :=
  (List.mem_filter.mp h).1

theorem tokens_of_mem_innerAttributes {p a : RustPhrase} (h : a ∈ innerAttributes p) :
    a.tokens ⊆ p.tokens := by
  rcases List.mem_append.mp h with h | h
  · exact Phrase.tokens_subset_of_mem_parts (mem_parts_of_mem_all h)
  · obtain ⟨q, hq, ha⟩ := List.mem_flatMap.mp h
    have hq := Phrase.tokens_subset_of_mem_parts (List.mem_filter.mp hq).1
    have ha := Phrase.tokens_subset_of_mem_parts (mem_parts_of_mem_all ha)
    exact List.Subset.trans ha hq

mutual

theorem says_of_mem_allDocLines {line : String} : ∀ {p : RustPhrase}, line ∈ allDocLines p → Says p line
  | .leaf t, h => by
    unfold allDocLines at h
    cases h
  | .node k ps, h => by
    unfold allDocLines at h
    split at h
    · exact says_docLine (Option.mem_toList.mp h)
    · split at h
      · cases h
      · rcases List.mem_append.mp h with h | h
        · split at h
          · cases h
          · exact says_of_mem_docLines (fun a => tokens_of_mem_innerAttributes) h
        · obtain ⟨p, hp, hsays⟩ := says_of_mem_allDocLinesOf h
          exact says_of_part hp hsays

theorem says_of_mem_allDocLinesOf {line : String} :
    ∀ {ps : List RustPhrase}, line ∈ allDocLinesOf ps → ∃ p ∈ ps, Says p line
  | [], h => by
    unfold allDocLinesOf at h
    cases h
  | p :: ps, h => by
    unfold allDocLinesOf at h
    rcases List.mem_append.mp h with h | h
    · exact ⟨p, List.mem_cons_self, says_of_mem_allDocLines h⟩
    · obtain ⟨q, hq, hsays⟩ := says_of_mem_allDocLinesOf h
      exact ⟨q, List.mem_cons_of_mem _ hq, hsays⟩

end

theorem says_of_mem_functionOf {p q : RustPhrase} {receiver : Option String}
    {attributes : List RustPhrase} (hattributes : ∀ a ∈ attributes, a.tokens ⊆ p.tokens)
    (hq : q.tokens ⊆ p.tokens) {line : String} (h : line ∈ (functionOf receiver attributes q).doc) :
    Says p line := by
  refine says_of_mem_docLines ?_ (h : line ∈ docLines (attributes ++ innerAttributes q))
  intro a ha
  rcases List.mem_append.mp ha with ha | ha
  · exact hattributes a ha
  · exact List.Subset.trans (tokens_of_mem_innerAttributes ha) hq

theorem says_of_mem_methodsOf {depth : ℕ} {p : RustPhrase} {f : FunctionDecl}
    (hf : f ∈ methodsOf depth p) {line : String} (h : line ∈ f.doc) : Says p line := by
  obtain ⟨member, hmember, hf⟩ := List.mem_filterMap.mp hf
  obtain ⟨q, hq, rfl⟩ := Option.map_eq_some_iff.mp hf
  refine says_of_part (mem_parts_of_mem_all hmember) (says_of_mem_functionOf ?_ ?_ h)
  · intro a ha
    exact Phrase.tokens_subset_of_mem_parts (mem_parts_of_mem_all ha)
  · exact Phrase.tokens_subset_of_mem_parts (List.mem_of_find?_eq_some hq)

theorem hasLine_declare {depth : ℕ} {u : SourceUnit} {attributes : List RustPhrase}
    {item p : RustPhrase} (hattributes : ∀ a ∈ attributes, a.tokens ⊆ item.tokens)
    (hp : p.tokens ⊆ item.tokens) {line : String}
    (h : (declare depth u attributes p).HasLine line) : u.HasLine line ∨ Says item line := by
  unfold declare at h
  split at h
  · exact Or.inl h
  · exact Or.inl h
  · exact Or.inl h
  · exact Or.inl h
  · rcases h with h | ⟨f, hf, hline⟩
    · exact Or.inl (Or.inl h)
    · rcases List.mem_append.mp hf with hf | hf
      · exact Or.inl (Or.inr ⟨f, hf, hline⟩)
      · rw [List.mem_singleton.mp hf] at hline
        exact Or.inr (says_of_mem_functionOf hattributes hp hline)
  · rcases h with h | ⟨f, hf, hline⟩
    · exact Or.inl (Or.inl h)
    · rcases List.mem_append.mp hf with hf | hf
      · exact Or.inl (Or.inr ⟨f, hf, hline⟩)
      · exact Or.inr ((says_of_mem_methodsOf hf hline).mono hp)
  · exact Or.inl h

theorem hasLine_addItem {depth : ℕ} {u : SourceUnit} {item : RustPhrase} {line : String}
    (h : (addItem depth u item).HasLine line) : u.HasLine line ∨ Says item line := by
  have hcomments : ∀ {line},
      ({ u with comments := u.comments ++ allDocLines item } : SourceUnit).HasLine line →
      u.HasLine line ∨ Says item line := by
    rintro line (h | h)
    · rcases List.mem_append.mp h with h | h
      · exact Or.inl (Or.inl h)
      · exact Or.inr (says_of_mem_allDocLines h)
    · exact Or.inl (Or.inr h)
  unfold addItem at h
  split at h
  · exact Or.inl h
  · split at h
    · rename_i p hp
      have hp := Phrase.tokens_subset_of_mem_parts (List.mem_of_find?_eq_some hp)
      rcases hasLine_declare (fun a ha => Phrase.tokens_subset_of_mem_parts (mem_parts_of_mem_all ha))
        hp h with h | h
      · exact hcomments h
      · exact Or.inr h
    · exact hcomments h

theorem says_of_hasLine_ofFile {depth : ℕ} {path : String} {file : RustPhrase} {line : String}
    (h : (ofFile depth path file).HasLine line) : Says file line := by
  refine List.foldlRecOn (motive := fun u : SourceUnit => u.HasLine line → Says file line) _ _ ?_ ?_ h
  · rintro (h | ⟨f, hf, -⟩)
    · refine says_of_mem_docLines (fun a ha => ?_) h
      exact Phrase.tokens_subset_of_mem_parts (mem_parts_of_mem_all ha)
    · cases hf
  · intro u ih item hitem h
    rcases hasLine_addItem h with h | h
    · exact ih h
    · exact says_of_part (mem_parts_of_mem_all hitem) h

/-- Each line of a Rust source is one of its documentation texts, trimmed. -/
theorem occurs_of_hasLine {path source : String} {u : SourceUnit} (h : read path source = .ok u)
    {line : String} (hline : u.HasLine line) :
    ∃ form value, RustToken.Occurs source.toList form value ∧ line = Text.trimmed value := by
  obtain ⟨file, hfile, rfl⟩ := (read_eq_ok_iff path).mp h
  obtain ⟨tokens, htokens, hsub⟩ := tokens_of_file? hfile
  obtain ⟨value, hvalue, rfl⟩ := says_of_hasLine_ofFile hline
  obtain ⟨form, hform⟩ := RustToken.exists_occurs htokens (hsub hvalue)
  exact ⟨form, value, hform, rfl⟩

end RustUnit

/-! ### Both languages -/

/-- **Comment lines are trimmed, and in Go they are single lines.**  A line of a unit has no blanks
around it.  In Go it is one line of a comment of the source, and the lines of this comment come one by
one, in their order.  In Rust it is a documentation text, trimmed, so that it is a single line if the
text is; a line comment always is one. -/
theorem Language.read_lines {l : Language} {path source : String} {u : SourceUnit}
    (h : l.read path source = .ok u) {line : String} (hline : u.HasLine line) :
    Text.IsTrimmed line ∧
    (l = .go → Text.IsOneLine line ∧ ∃ t ∈ GoToken.ofSource source.toList, t.kind = .comment ∧
      line ∈ GoUnit.commentLines t.text ∧ GoUnit.commentLines t.text <:+: u.comments ∧
      ∀ ls : List (List Char), (∀ l ∈ ls, '\n' ∉ l) → (∀ l ∈ ls.getLast?, l ≠ []) →
        t.text = String.ofList ("/*".toList ++ List.intercalate ['\n'] ls ++ "*/".toList) →
        GoUnit.commentLines t.text = ls.map GoUnit.withoutStars) ∧
    (l = .rust → ∃ form value, RustToken.Occurs source.toList form value ∧
      line = Text.trimmed value ∧ (form = .lineComment → Text.IsOneLine line)) := by
  cases l with
  | go =>
    cases h
    have hmem : line ∈ (GoUnit.read path source).comments := by
      rcases hline with hline | ⟨f, hf, hline⟩
      · exact hline
      · exact GoUnit.doc_subset_comments hf hline
    obtain ⟨t, ht, hkind, hcited, hinfix⟩ := GoUnit.comment_of_mem_comments hmem
    have hcomment := GoToken.isComment_of_mem_ofSource ht hkind
    have hone := GoUnit.isOneLine_of_mem_commentLines hcomment hcited
    have hblock : ∀ ls : List (List Char), (∀ l ∈ ls, '\n' ∉ l) → (∀ l ∈ ls.getLast?, l ≠ []) →
        t.text = String.ofList ("/*".toList ++ List.intercalate ['\n'] ls ++ "*/".toList) →
        GoUnit.commentLines t.text = ls.map GoUnit.withoutStars := by
      intro ls hls hlast htext
      rw [htext]
      exact GoUnit.commentLines_intercalate hls hlast
    refine ⟨GoUnit.isTrimmed_of_mem_commentLines hcited, fun _ => ⟨hone, ?_⟩, nofun⟩
    exact ⟨t, ht, hkind, hcited, hinfix, hblock⟩
  | rust =>
    obtain ⟨form, value, hoccurs, rfl⟩ := RustUnit.occurs_of_hasLine h hline
    refine ⟨Text.isTrimmed_trim _, nofun, fun _ => ⟨form, value, hoccurs, rfl, ?_⟩⟩
    obtain ⟨piece, ts, rest, -, -, -, hwrites⟩ := hoccurs
    exact hwrites.oneLine

theorem Language.read_lines_orders :
    Text.IsOneLine "@Router /orders [get]" ∧ Text.IsTrimmed "List all" := by
  have hgo : (GoUnit.read "" "package shop\n\n/* @Title\n@Router /orders [get] */\n").comments =
      ["@Title", "@Router /orders [get]"] := by decide +kernel
  have hrust : Language.rust.read "" "/// List all\nconst N: u8 = 0;\n" =
      .ok { path := "", comments := ["List all"] } := except_of_toOption (by decide +kernel)
  constructor
  · exact ((Language.read_lines (l := .go) rfl (Or.inl (by rw [hgo]; simp))).2.1 rfl).1
  · exact (Language.read_lines hrust (Or.inl (by simp))).1

/-- A block comment with two lines gives two lines in Go and one text in Rust. -/
theorem Language.read_lines_differs :
    ¬(∀ (l : Language) (path source : String) (u : SourceUnit), l.read path source = .ok u →
        ∀ line, u.HasLine line → Text.IsTrimmed line ∧ Text.IsOneLine line) ∧
    Language.rust.read "input"
        "/** @Title list\n@Router /orders [get] */\npub fn list() \x7b\x7d\n" = .ok {
      path := "input"
      functions := [{ name := "list", doc := ["@Title list\n@Router /orders [get]"] }]
      comments := ["@Title list\n@Router /orders [get]"] } ∧
    Language.go.read "input"
        "package shop\n\n/* @Title list\n@Router /orders [get] */\nfunc List() \x7b\x7d\n" = .ok {
      path := "input"
      functions := [{ name := "List", doc := ["@Title list", "@Router /orders [get]"] }]
      comments := ["@Title list", "@Router /orders [get]"] } := by
  have hread : Language.rust.read "input"
      "/** @Title list\n@Router /orders [get] */\npub fn list() \x7b\x7d\n" = .ok {
        path := "input"
        functions := [{ name := "list", doc := ["@Title list\n@Router /orders [get]"] }]
        comments := ["@Title list\n@Router /orders [get]"] } := except_of_toOption (by decide +kernel)
  refine ⟨fun hall => ?_, hread, except_of_toOption (by decide +kernel)⟩
  have hone := (hall .rust _ _ _ hread "@Title list\n@Router /orders [get]" (Or.inl (by simp))).2
  exact hone (by decide)

end ApiScribe
