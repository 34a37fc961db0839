import ApiScribe.Operation.Directive
import ApiScribe.Proofs.Text.Reading
import Mathlib.Data.List.Basic

/-!
# The grammar of directives

What a line says, by its tag and its words: `Line.Says` relates a line to the directive that it is,
`Line.Malformed` collects the lines that break the grammar of their tag, and the rest are no
directives.  `Directive.read?` decides between the three (`read?_eq_some_iff`, `read?_eq_error_iff`,
`read?_eq_none_iff`).
-/

namespace ApiScribe

/-! ### The parts of a line -/

namespace Text

theorem trim_cons_blank {c : Char} (hc : isBlank c = true) (cs : List Char) :
    trim (c :: cs) = trim cs := by
  unfold trim strip
  rw [List.dropWhile_cons_of_pos hc]

theorem cutFirst_blank (cs : List Char) : cutFirst isBlank cs = match afterWord cs with
    | [] => none
    | _ :: bs => some (word cs, bs) := by
  induction cs with
  | nil => rfl
  | cons c cs ih =>
    unfold cutFirst
    cases hc : isBlank c with
    | true => simp [word, afterWord, hc]
    | false =>
      have hword : word (c :: cs) = c :: word cs := by simp [word, hc]
      have hafter : afterWord (c :: cs) = afterWord cs := by simp [afterWord, hc]
      rw [ih, hword, hafter]
      cases afterWord cs <;> rfl

theorem trim_eq_nil_iff {cs : List Char} : trim cs = [] ↔ ∀ c ∈ cs, isBlank c := by
  unfold trim strip dropEnd
  constructor
  · intro h
    rw [List.reverse_eq_nil_iff, List.dropWhile_eq_nil_iff] at h
    rw [← List.dropWhile_eq_nil_iff]
    cases hdrop : cs.dropWhile isBlank with
    | nil => rfl
    | cons c r =>
      have hc : (cs.dropWhile isBlank).head? = some c := by rw [hdrop]; rfl
      have hblank := h c (by simp [hdrop])
      rw [isBlank_of_head? hc] at hblank
      cases hblank
  · intro h
    rw [List.dropWhile_eq_nil_iff.mpr h]
    rfl

end Text

namespace Line

/-- A line without the blanks around it. -/
abbrev text (line : String) : List Char := Text.trim line.toList

/-- A line whose text starts with an at sign. -/
def IsTagged (line : String) : Prop := (text line).head? = some '@'

instance (line : String) : Decidable (IsTagged line) := by unfold IsTagged; infer_instance

/-- The text up to the first blank. -/
def tag (line : String) : String := String.ofList (Text.word (text line))

/-- The text behind the tag, without the blanks around it. -/
def rest (line : String) : List Char := Text.trim (Text.afterWord (text line))

def words (line : String) : List (List Char) := Text.words (rest line)

/-- What stands behind the tag, between commas. -/
def items (line : String) : List (List Char) := (rest line).splitOn ','

/-- What stands behind the first `n` words, as it is. -/
def behind (n : ℕ) (line : String) : List Char := (Text.leadingWords n (rest line)).2

theorem IsTagged.split? {line : String} (h : IsTagged line) :
    Directive.split? (text line) = some (Text.word (text line), rest line) := by
  unfold IsTagged at h
  unfold rest
  obtain ⟨cs, hcs⟩ := List.head?_eq_some_iff.mp h
  rw [hcs, Directive.split?, Text.cutFirst_blank]
  rcases hafter : Text.afterWord ('@' :: cs) with _ | ⟨b, bs⟩
  · have hword := Text.word_append_afterWord ('@' :: cs)
    rw [hafter, List.append_nil] at hword
    rw [hword]
    rfl
  · rw [Text.trim_cons_blank (Text.isBlank_of_afterWord hafter)]

theorem split?_eq_none {line : String} (h : ¬ IsTagged line) :
    Directive.split? (text line) = none := by
  unfold Directive.split?
  split
  · rename_i heq
    exact absurd (congrArg List.head? heq) h
  · rfl

/-- What a line is read as depends on its tag and on the rest. -/
theorem read?_eq (line : String) : Directive.read? line =
    if IsTagged line then
      match Directive.readTagged (tag line) (rest line) with
      | .ok directive => .ok (some directive)
      | .error reason => .error (.malformedDirective (Text.trimmed line) reason)
    else .ok none := by
  unfold Directive.read?
  dsimp only
  split_ifs with h
  · rw [h.split?]
    rfl
  · rw [split?_eq_none h]

theorem isDirective_eq (line : String) : Directive.isDirective line = decide (IsTagged line) := by
  unfold Directive.isDirective
  by_cases h : IsTagged line
  · rw [h.split?, decide_eq_true h]
    rfl
  · rw [split?_eq_none h, decide_eq_false h]
    rfl

/-! ### The grammar -/

/-- The tags that mean something for an operation. -/
def tags : List String :=
  ["@Router", "@router", "@Title", "@Description", "@Notes", "@Resource", "@Param", "@Accept",
    "@Consume", "@Produce", "@Success", "@Failure"]

/-- The tags of lists of content types, and whether the types are consumed and produced. -/
def contentTags : List (String × Bool × Bool) :=
  [("@Accept", true, true), ("@Consume", true, false), ("@Produce", false, true)]

/-- The content types that a line names; other items are passed over. -/
def contentTypes (line : String) : List String :=
  (items line).filterMap fun item => Directive.contentType? (String.ofList (Text.trim item))

/-- The directive that a line is. -/
inductive Says (line : String) : Directive → Prop
  | route {path : List Char} {more : List (List Char)}
      (htag : tag line = "@Router" ∨ tag line = "@router") (hwords : words line = path :: more) :
      Says line (.route (String.ofList path) (String.ofList (Directive.method more)))
  | title (htag : tag line = "@Title") : Says line (.title (String.ofList (rest line)))
  | description (htag : tag line = "@Description") :
      Says line (.description (String.ofList (rest line)))
  | notes (htag : tag line = "@Notes") : Says line (.notes (String.ofList (rest line)))
  | resource (htag : tag line = "@Resource") (hname : ∃ c ∈ rest line, c ≠ '/') :
      Says line (.resource (String.ofList ((rest line).dropWhile (· == '/'))))
  | parameter {name location type flag : List Char} {more : List (List Char)}
      (htag : tag line = "@Param") (hwords : words line = name :: location :: type :: flag :: more) :
      Says line (.parameter (String.ofList name) (String.ofList location) (String.ofList type)
        (Directive.isRequiredFlag flag) (String.ofList (Directive.unquote (behind 4 line))))
  | contentTypes {consumed produced : Bool} (htag : (tag line, consumed, produced) ∈ contentTags)
      (hitem : ∃ item ∈ items line, ∃ c ∈ item, Text.isBlank c = false) :
      Says line (.contentTypes consumed produced (contentTypes line))
  | response {code marker type : List Char} {more : List (List Char)} {n : Int32}
      (htag : tag line = "@Success" ∨ tag line = "@Failure")
      (hwords : words line = code :: marker :: type :: more) (hcode : Text.Signed code n.toInt) :
      Says line (.response n (String.ofList marker) (String.ofList type)
        (String.ofList (Directive.unquote (behind 3 line))))
  | other (htagged : IsTagged line) (htag : tag line ∉ tags) : Says line (.other (tag line))

/-- The lines that break the grammar of their tag. -/
inductive Malformed (line : String) : Prop
  | route (htag : tag line = "@Router" ∨ tag line = "@router") (h : words line = [])
  | resource (htag : tag line = "@Resource") (h : ∀ c ∈ rest line, c = '/')
  | parameter (htag : tag line = "@Param") (h : (words line).length < 4)
  | contentTypes (htag : tag line = "@Accept" ∨ tag line = "@Consume" ∨ tag line = "@Produce")
      (h : ∀ item ∈ items line, ∀ c ∈ item, Text.isBlank c)
  | response (htag : tag line = "@Success" ∨ tag line = "@Failure")
      (h : (words line).length < 3 ∨
        ∃ code ∈ (words line).head?, ¬ ∃ n : Int32, Text.Signed code n.toInt)

/-- What is wrong with a malformed line. -/
def complaint (line : String) : String :=
  if tag line = "@Router" ∨ tag line = "@router" then "route path is missing"
  else if tag line = "@Resource" then "resource name is missing"
  else if tag line = "@Param" then "expected a name, a location, a type and a required flag"
  else if tag line = "@Success" ∨ tag line = "@Failure" then
    match words line with
    | [] => "status code is missing"
    | code :: _ =>
      if (Text.readInt32? code).isSome then "expected a \x7bmarker\x7d and a type name"
      else "status code '" ++ String.ofList code ++ "' is not an integer"
  else "content type list is empty"

/-! ### Reading by the grammar -/

variable {line : String}

theorem leadingWords_rest (n : ℕ) (line : String) :
    Text.leadingWords n (rest line) = ((words line).take n, behind n line) :=
  Prod.ext (Text.leadingWords_fst n (rest line)) rfl

theorem method_take (more : List (List Char)) :
    Directive.method (more.take 1) = Directive.method more := by
  cases more <;> rfl

theorem readTagged_other {name : String} (h : name ∉ tags) (cs : List Char) :
    Directive.readTagged name cs = .ok (.other name) := by
  unfold Directive.readTagged
  split
  case h_13 => rfl
  all_goals exact absurd (by decide) h

theorem readTagged_route {name : String} (h : name = "@Router" ∨ name = "@router") (cs : List Char) :
    Directive.readTagged name cs = Directive.readRoute cs := by
  rcases h with rfl | rfl <;> rfl

theorem readTagged_resource (cs : List Char) :
    Directive.readTagged "@Resource" cs = Directive.readResource cs := rfl

theorem readTagged_parameter (cs : List Char) :
    Directive.readTagged "@Param" cs = Directive.readParameter cs := rfl

theorem readTagged_contentTypes {name : String} {consumed produced : Bool}
    (h : (name, consumed, produced) ∈ contentTags) (cs : List Char) :
    Directive.readTagged name cs = Directive.readContentTypes consumed produced cs := by
  simp only [contentTags, List.mem_cons, Prod.mk.injEq, List.not_mem_nil, or_false] at h
  rcases h with ⟨rfl, rfl, rfl⟩ | ⟨rfl, rfl, rfl⟩ | ⟨rfl, rfl, rfl⟩ <;> rfl

theorem readTagged_response {name : String} (h : name = "@Success" ∨ name = "@Failure")
    (cs : List Char) : Directive.readTagged name cs = Directive.readResponse cs := by
  rcases h with rfl | rfl <;> rfl

theorem readRoute_rest {path : List Char} {more : List (List Char)}
    (hwords : words line = path :: more) : Directive.readRoute (rest line) =
      .ok (.route (String.ofList path) (String.ofList (Directive.method more))) := by
  rw [Directive.readRoute, leadingWords_rest, hwords, ← method_take more]
  rfl

theorem readResource_rest (hname : ∃ c ∈ rest line, c ≠ '/') : Directive.readResource (rest line) =
    .ok (.resource (String.ofList ((rest line).dropWhile (· == '/')))) := by
  have hne : (rest line).dropWhile (· == '/') ≠ [] := by
    obtain ⟨c, hc, hslash⟩ := hname
    intro hnil
    exact hslash (by simpa using List.dropWhile_eq_nil_iff.mp hnil c hc)
  unfold Directive.readResource
  split
  · exact absurd ‹_› hne
  · rfl

theorem readParameter_rest {name location type flag : List Char} {more : List (List Char)}
    (hwords : words line = name :: location :: type :: flag :: more) :
    Directive.readParameter (rest line) =
      .ok (.parameter (String.ofList name) (String.ofList location) (String.ofList type)
        (Directive.isRequiredFlag flag) (String.ofList (Directive.unquote (behind 4 line)))) := by
  rw [Directive.readParameter, leadingWords_rest, hwords]
  rfl

theorem readResponse_rest {code marker type : List Char} {more : List (List Char)} {n : Int32}
    (hwords : words line = code :: marker :: type :: more) (hcode : Text.Signed code n.toInt) :
    Directive.readResponse (rest line) =
      .ok (.response n (String.ofList marker) (String.ofList type)
        (String.ofList (Directive.unquote (behind 3 line)))) := by
  rw [Directive.readResponse, leadingWords_rest, hwords]
  simp only [List.take_succ_cons, List.take_zero, Text.readInt32?_eq_some_iff.mpr hcode]

/-- The items that are not blank, without the blanks around them. -/
def tokens (line : String) : List (List Char) :=
  ((items line).map Text.trim).filter fun token => !token.isEmpty

theorem filterMap_tokens (line : String) :
    (tokens line).filterMap (fun token => Directive.contentType? (String.ofList token)) =
      contentTypes line := by
  unfold tokens contentTypes
  rw [List.filterMap_filter, List.filterMap_map]
  refine List.filterMap_congr fun item _ => ?_
  cases htrim : Text.trim item with
  | nil => simp [htrim, Directive.contentType?]
  | cons c cs => simp [htrim]

theorem tokens_eq_nil_iff :
    tokens line = [] ↔ ∀ item ∈ items line, ∀ c ∈ item, Text.isBlank c := by
  simp [tokens, Text.trim_eq_nil_iff]

theorem readContentTypes_rest (consumed produced : Bool) :
    Directive.readContentTypes consumed produced (rest line) =
      if tokens line = [] then .error "content type list is empty"
      else .ok (.contentTypes consumed produced (contentTypes line)) := by
  have htokens : ((Text.pieces (· == ',') (rest line)).map Text.trim).filter
      (fun token => !token.isEmpty) = tokens line := by
    rw [Text.pieces_eq_splitOnP, ← List.splitOn_eq_splitOnP]
    rfl
  unfold Directive.readContentTypes
  rw [htokens, ← filterMap_tokens]
  cases tokens line <;> rfl

/-- **A line is read as the directive that it is.** -/
theorem Says.readTagged {directive : Directive} (h : Says line directive) :
    Directive.readTagged (tag line) (rest line) = .ok directive := by
  cases h with
  | route htag hwords => rw [readTagged_route htag, readRoute_rest hwords]
  | title htag => rw [htag]; rfl
  | description htag => rw [htag]; rfl
  | notes htag => rw [htag]; rfl
  | resource htag hname => rw [htag, readTagged_resource, readResource_rest hname]
  | parameter htag hwords => rw [htag, readTagged_parameter, readParameter_rest hwords]
  | @contentTypes consumed produced htag hitem =>
    have hne : tokens line ≠ [] := by
      obtain ⟨item, hitem, c, hc, hblank⟩ := hitem
      intro hnil
      simp [tokens_eq_nil_iff.mp hnil item hitem c hc] at hblank
    rw [readTagged_contentTypes htag, readContentTypes_rest, if_neg hne]
  | response htag hwords hcode => rw [readTagged_response htag, readResponse_rest hwords hcode]
  | other _ htag => exact readTagged_other htag _

theorem complaint_response (htag : tag line = "@Success" ∨ tag line = "@Failure") :
    complaint line = match words line with
      | [] => "status code is missing"
      | code :: _ =>
        if (Text.readInt32? code).isSome then "expected a \x7bmarker\x7d and a type name"
        else "status code '" ++ String.ofList code ++ "' is not an integer" := by
  rcases htag with htag | htag <;> simp [complaint, htag]

theorem readResponse_malformed (htag : tag line = "@Success" ∨ tag line = "@Failure")
    (h : (words line).length < 3 ∨
      ∃ code ∈ (words line).head?, ¬ ∃ n : Int32, Text.Signed code n.toInt) :
    Directive.readResponse (rest line) = .error (complaint line) := by
  rw [complaint_response htag, Directive.readResponse, leadingWords_rest]
  rcases hwords : words line with _ | ⟨code, more⟩
  · rfl
  · rw [hwords] at h
    rw [List.take_succ_cons]
    dsimp only
    cases hcode : Text.readInt32? code with
    | none => rfl
    | some n =>
      have hlength : more.length < 2 := by
        rcases h with hlength | ⟨_, hhead, hnone⟩
        · rw [List.length_cons] at hlength
          omega
        · cases hhead
          exact absurd ⟨n, Text.readInt32?_eq_some_iff.mp hcode⟩ hnone
      rw [List.take_of_length_le hlength.le]
      rcases more with _ | ⟨marker, _ | ⟨type, more⟩⟩
      case cons.cons =>
        simp only [List.length_cons] at hlength
        omega
      all_goals rfl

/-- **A malformed line is refused with the complaint about it.** -/
theorem Malformed.readTagged (h : Malformed line) :
    Directive.readTagged (tag line) (rest line) = .error (complaint line) := by
  cases h with
  | route htag hwords =>
    have hread : Directive.readRoute (rest line) = .error "route path is missing" := by
      rw [Directive.readRoute, leadingWords_rest, hwords]
      rfl
    rw [readTagged_route htag, hread, complaint, if_pos htag]
  | resource htag hslash =>
    have hnil : (rest line).dropWhile (· == '/') = [] :=
      List.dropWhile_eq_nil_iff.mpr fun c hc => by simpa using hslash c hc
    rw [complaint, htag, readTagged_resource, Directive.readResource, hnil]
    rfl
  | parameter htag hlength =>
    have hread : Directive.readParameter (rest line) =
        .error "expected a name, a location, a type and a required flag" := by
      rw [Directive.readParameter, leadingWords_rest, List.take_of_length_le (by omega)]
      rcases hwords : words line with
        _ | ⟨name, _ | ⟨location, _ | ⟨type, _ | ⟨flag, more⟩⟩⟩⟩
      case cons.cons.cons.cons =>
        rw [hwords] at hlength
        simp at hlength
        omega
      all_goals rfl
    rw [complaint, htag, readTagged_parameter, hread]
    rfl
  | contentTypes htag hblank =>
    have hcontent : ∃ consumed produced, (tag line, consumed, produced) ∈ contentTags := by
      rcases htag with htag | htag | htag <;> rw [htag]
      · exact ⟨true, true, by decide⟩
      · exact ⟨true, false, by decide⟩
      · exact ⟨false, true, by decide⟩
    obtain ⟨consumed, produced, hcontent⟩ := hcontent
    rw [readTagged_contentTypes hcontent, readContentTypes_rest,
      if_pos (tokens_eq_nil_iff.mpr hblank)]
    rcases htag with htag | htag | htag <;> rw [complaint, htag] <;> rfl
  | response htag hwrong =>
    rw [readTagged_response htag, readResponse_malformed htag hwrong]

theorem response_malformed_or_directive (htag : tag line = "@Success" ∨ tag line = "@Failure") :
    Malformed line ∨ ∃ directive, Says line directive := by
  rcases hwords : words line with _ | ⟨code, _ | ⟨marker, _ | ⟨type, more⟩⟩⟩
  case cons.cons.cons =>
    by_cases hcode : ∃ n : Int32, Text.Signed code n.toInt
    · obtain ⟨n, hcode⟩ := hcode
      exact Or.inr ⟨_, .response htag hwords hcode⟩
    · exact Or.inl (.response htag (Or.inr ⟨code, by rw [hwords]; rfl, hcode⟩))
  all_goals exact Or.inl (.response htag (Or.inl (by simp [hwords])))

/-- A line with a tag is malformed or a directive. -/
theorem IsTagged.malformed_or_directive (h : IsTagged line) :
    Malformed line ∨ ∃ directive, Says line directive := by
  by_cases hknown : tag line ∈ tags
  · have hroute : tag line = "@Router" ∨ tag line = "@router" →
        Malformed line ∨ ∃ directive, Says line directive := by
      intro htag
      rcases hwords : words line with _ | ⟨path, more⟩
      · exact Or.inl (.route htag hwords)
      · exact Or.inr ⟨_, .route htag hwords⟩
    have hcontent : ∀ consumed produced, (tag line, consumed, produced) ∈ contentTags →
        (tag line = "@Accept" ∨ tag line = "@Consume" ∨ tag line = "@Produce") →
        Malformed line ∨ ∃ directive, Says line directive := by
      intro consumed produced hmem htag
      by_cases hblank : ∀ item ∈ items line, ∀ c ∈ item, Text.isBlank c
      · exact Or.inl (.contentTypes htag hblank)
      · exact Or.inr ⟨_, .contentTypes hmem (by simpa using hblank)⟩
    simp only [tags, List.mem_cons, List.not_mem_nil, or_false] at hknown
    rcases hknown with htag | htag | htag | htag | htag | htag | htag | htag | htag | htag | htag |
      htag
    · exact hroute (Or.inl htag)
    · exact hroute (Or.inr htag)
    · exact Or.inr ⟨_, .title htag⟩
    · exact Or.inr ⟨_, .description htag⟩
    · exact Or.inr ⟨_, .notes htag⟩
    · by_cases hslash : ∀ c ∈ rest line, c = '/'
      · exact Or.inl (.resource htag hslash)
      · exact Or.inr ⟨_, .resource htag (by simpa using hslash)⟩
    · rcases hwords : words line with
        _ | ⟨name, _ | ⟨location, _ | ⟨type, _ | ⟨flag, more⟩⟩⟩⟩
      case cons.cons.cons.cons => exact Or.inr ⟨_, .parameter htag hwords⟩
      all_goals exact Or.inl (.parameter htag (by simp [hwords]))
    · exact hcontent true true (by simp [htag, contentTags]) (Or.inl htag)
    · exact hcontent true false (by simp [htag, contentTags]) (Or.inr (Or.inl htag))
    · exact hcontent false true (by simp [htag, contentTags]) (Or.inr (Or.inr htag))
    · exact response_malformed_or_directive (Or.inl htag)
    · exact response_malformed_or_directive (Or.inr htag)
  · exact Or.inr ⟨_, .other h hknown⟩

/-! ### Three kinds of lines -/

theorem isTagged_of_mem_tags (h : tag line ∈ tags) : IsTagged line := by
  have hhead : ∀ name ∈ tags, name.toList.head? = some '@' := by decide
  have htag := hhead _ h
  rw [tag, String.toList_ofList] at htag
  obtain ⟨cs, hcs⟩ := List.head?_eq_some_iff.mp htag
  rw [IsTagged, ← Text.word_append_afterWord (text line), hcs]
  rfl

theorem Says.isTagged {directive : Directive} (h : Says line directive) : IsTagged line := by
  cases h with
  | other htagged _ => exact htagged
  | contentTypes htag _ =>
    refine isTagged_of_mem_tags ?_
    simp only [contentTags, List.mem_cons, Prod.mk.injEq, List.not_mem_nil, or_false] at htag
    rcases htag with ⟨htag, -⟩ | ⟨htag, -⟩ | ⟨htag, -⟩ <;> simp [htag, tags]
  | route htag _ => exact isTagged_of_mem_tags (by rcases htag with h | h <;> simp [h, tags])
  | response htag _ _ => exact isTagged_of_mem_tags (by rcases htag with h | h <;> simp [h, tags])
  | title htag => exact isTagged_of_mem_tags (by simp [htag, tags])
  | description htag => exact isTagged_of_mem_tags (by simp [htag, tags])
  | notes htag => exact isTagged_of_mem_tags (by simp [htag, tags])
  | resource htag _ => exact isTagged_of_mem_tags (by simp [htag, tags])
  | parameter htag _ => exact isTagged_of_mem_tags (by simp [htag, tags])

theorem Malformed.isTagged (h : Malformed line) : IsTagged line := by
  refine isTagged_of_mem_tags ?_
  cases h with
  | route htag _ => rcases htag with h | h <;> simp [h, tags]
  | resource htag _ => simp [htag, tags]
  | parameter htag _ => simp [htag, tags]
  | contentTypes htag _ => rcases htag with h | h | h <;> simp [h, tags]
  | response htag _ => rcases htag with h | h <;> simp [h, tags]

theorem Says.read? {directive : Directive} (h : Says line directive) :
    Directive.read? line = .ok (some directive) := by
  rw [read?_eq, if_pos h.isTagged, h.readTagged]

theorem Malformed.read? (h : Malformed line) : Directive.read? line =
    .error (.malformedDirective (Text.trimmed line) (complaint line)) := by
  rw [read?_eq, if_pos h.isTagged, h.readTagged]

theorem read?_of_not_isTagged (h : ¬ IsTagged line) : Directive.read? line = .ok none := by
  rw [read?_eq, if_neg h]

/-- Every line is of one of three kinds. -/
theorem kinds (line : String) :
    ¬ IsTagged line ∨ Malformed line ∨ ∃ directive, Says line directive := by
  by_cases h : IsTagged line
  · exact Or.inr h.malformed_or_directive
  · exact Or.inl h

theorem Says.unique {directive directive' : Directive} (h : Says line directive)
    (h' : Says line directive') : directive = directive' := by
  cases h.read?.symm.trans h'.read?
  rfl

theorem Says.not_malformed {directive : Directive} (h : Says line directive) :
    ¬ Malformed line := fun h' => nomatch h.read?.symm.trans h'.read?

/-- **A line is read as what it says.** -/
theorem read?_eq_some_iff {directive : Directive} :
    Directive.read? line = .ok (some directive) ↔ Says line directive := by
  refine ⟨fun h => ?_, Says.read?⟩
  rcases kinds line with hplain | hmalformed | ⟨directive', hsaid⟩
  · cases h.symm.trans (read?_of_not_isTagged hplain)
  · cases h.symm.trans hmalformed.read?
  · cases h.symm.trans hsaid.read?
    exact hsaid

/-- **Reading fails on the malformed lines, with the complaint about the line.** -/
theorem read?_eq_error_iff {e : Error} : Directive.read? line = .error e ↔
    Malformed line ∧ e = .malformedDirective (Text.trimmed line) (complaint line) := by
  constructor
  · intro h
    rcases kinds line with hplain | hmalformed | ⟨directive, hsaid⟩
    · cases h.symm.trans (read?_of_not_isTagged hplain)
    · cases h.symm.trans hmalformed.read?
      exact ⟨hmalformed, rfl⟩
    · cases h.symm.trans hsaid.read?
  · rintro ⟨hmalformed, rfl⟩
    exact hmalformed.read?

/-- **A line is no directive if its text does not start with an at sign.** -/
theorem read?_eq_none_iff : Directive.read? line = .ok none ↔ ¬ IsTagged line := by
  refine ⟨fun h => ?_, read?_of_not_isTagged⟩
  rcases kinds line with hplain | hmalformed | ⟨directive, hsaid⟩
  · exact hplain
  · cases h.symm.trans hmalformed.read?
  · cases h.symm.trans hsaid.read?

end Line

end ApiScribe
