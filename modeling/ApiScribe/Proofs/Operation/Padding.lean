import ApiScribe.Proofs.Operation.Lookups

/-!
# Idle lines

Prose, directives with another tag and malformed directives (`Line.Idle`) leave nothing in an
operation and look nothing up.  So a comment that holds a directive may be padded with them at
will (`Line.Padded`): it is read as before, to its last line or to the type that is not found
(`applyComment_padded`).

Two things must be seen to.  A directive of any kind, an idle one too, makes the models unique, so
the drafts on the way have to be `Draft.Distinct`; and it counts as a directive, so without one of its
own the comment would no longer be refused.
-/

namespace ApiScribe

namespace Line

/-- The lines that a comment may hold or not. -/
inductive Idle (line : String) : Prop
  | prose (h : ¬ IsTagged line)
  | unknown (h : tag line ∉ tags)
  | malformed (h : Malformed line)

/-- The second lines are the first, with idle ones put in anywhere. -/
inductive Padded : List String → List String → Prop
  | nil : Padded [] []
  | kept (line : String) {lines lines' : List String} (h : Padded lines lines') :
      Padded (line :: lines) (line :: lines')
  | idle {line : String} (hline : Idle line) {lines lines' : List String}
      (h : Padded lines lines') : Padded lines (line :: lines')

end Line

namespace Draft

variable {σ : Type} {types : Lookup σ} {d d' : Draft} {s s' : σ} {line : String}
  {result : Except Error Unit}

/-! ### Drafts with one model of each id -/

/-- The models of a draft have different ids. -/
def Distinct (d : Draft) : Prop := d.distinct = d

theorem distinct_start (package : String) : (start package).Distinct := rfl

theorem distinct_distinct (d : Draft) : d.distinct.Distinct := by
  unfold Distinct distinct
  rw [Model.dedup_eq, Model.dedup_eq, firsts_firsts]

theorem Distinct.applyLine (hd : d.Distinct) (h : applyLine types d line s = ((result, d'), s')) :
    d'.Distinct := by
  obtain ⟨_, _, _, _, hrun, -, hdoes⟩ := does_applyLine types d s line
  cases h.symm.trans hrun
  cases hdoes with
  | plain | malformed | failed => exact hd
  | done | found => exact distinct_distinct _

/-! ### Comments -/

theorem applyLines_of_not_isTagged (h : ¬ Line.IsTagged line) (found : Bool) (lines : List String) :
    applyLines types found d (line :: lines) = applyLines types found d lines := by
  rw [applyLines, Line.isDirective_eq, decide_eq_false h]
  rfl

theorem applyLines_of_isTagged (h : Line.IsTagged line) (found : Bool) (lines : List String) :
    applyLines types found d (line :: lines) s = match applyLine types d line s with
      | ((.ok (), d'), s') => applyLines types true d' lines s'
      | ((.error e, d'), s') =>
        if e.isMalformed then applyLines types true d' lines s'
        else ((.error (.inDirective (Text.trimmed line) e), d'), s') := by
  rw [applyLines, Line.isDirective_eq, decide_eq_true h, if_pos rfl, stateM_bind]
  rcases applyLine types d line s with ⟨⟨e | _, d'⟩, s'⟩
  · dsimp only
    split <;> rfl
  · rfl

/-- An idle line counts as a directive if it has a tag, and that is all. -/
theorem applyLines_idle (hd : d.Distinct) (h : Line.Idle line) (found : Bool)
    (lines : List String) : applyLines types found d (line :: lines) s =
      applyLines types (found || decide (Line.IsTagged line)) d lines s := by
  by_cases htagged : Line.IsTagged line
  · rw [decide_eq_true htagged, Bool.or_true]
    cases h with
    | prose hplain => exact absurd htagged hplain
    | unknown htag =>
      have hrun := applyLine_of_ignored types d s (Line.ignored_iff.mpr (Or.inr htag))
      rw [if_pos htagged, hd] at hrun
      rw [applyLines_of_isTagged htagged, hrun]
    | malformed hmalformed =>
      rw [applyLines_of_isTagged htagged, applyLine_of_malformed types d s hmalformed]
      rfl
  · rw [decide_eq_false htagged, Bool.or_false, applyLines_of_not_isTagged htagged]

/-- What the two runs may differ in is whether they have seen a directive so far; then the one that
has not is still to see one. -/
theorem applyLines_padded {lines lines' : List String} (h : Line.Padded lines lines')
    {found found' : Bool} (hd : d.Distinct) (hseen : found = true → found' = true)
    (hdirective : found = true ∨ ∃ line ∈ lines, Line.IsTagged line) :
    applyLines types found' d lines' s = applyLines types found d lines s := by
  induction h generalizing d s found found' with
  | nil =>
    have hfound : found = true := hdirective.resolve_right fun ⟨_, hline, _⟩ => nomatch hline
    rw [hfound, hseen hfound]
  | @kept line lines lines' _ ih =>
    by_cases htagged : Line.IsTagged line
    · rw [applyLines_of_isTagged htagged, applyLines_of_isTagged htagged]
      rcases hrun : applyLine types d line s with ⟨⟨result, d'⟩, s'⟩
      have hrest : applyLines types true d' lines' s' = applyLines types true d' lines s' :=
        ih (hd.applyLine hrun) id (Or.inl rfl)
      cases result with
      | ok _ => exact hrest
      | error e =>
        dsimp only
        rw [hrest]
    · rw [applyLines_of_not_isTagged htagged, applyLines_of_not_isTagged htagged]
      refine ih hd hseen (hdirective.imp_right ?_)
      rintro ⟨other, hother, hotherTagged⟩
      rcases List.mem_cons.mp hother with rfl | hother
      · exact absurd hotherTagged htagged
      · exact ⟨other, hother, hotherTagged⟩
  | idle hline _ ih =>
    rw [applyLines_idle hd hline]
    exact ih hd (fun hfound => by rw [hseen hfound, Bool.true_or]) hdirective

/-- **Idle lines are invisible.**  A comment with a directive comes to the same result, leaves the
same operation and makes the same lookups in the same order if it is padded with prose, unknown tags
and malformed directives. -/
theorem applyComment_padded (types : Lookup σ) (package : String) {lines lines' : List String}
    (hpadded : Line.Padded lines lines') (hdirective : ∃ line ∈ lines, Line.IsTagged line) (s : σ) :
    applyComment types.logged (start package) lines' (s, []) =
        applyComment types.logged (start package) lines (s, []) ∧
      applyComment types (start package) lines' s = applyComment types (start package) lines s :=
  ⟨applyLines_padded hpadded (distinct_start package) id (Or.inr hdirective),
    applyLines_padded hpadded (distinct_start package) id (Or.inr hdirective)⟩

def orderLines : List String :=
  ["@Param id path string true", "@Success 200 \x7bobject\x7d Order"]

def paddedOrderLines : List String :=
  ["Shows an order.", "@Param id path string true", "@version 2",
    "@Success 200 \x7bobject\x7d Order", "@Failure none"]

theorem padded_orderLines : Line.Padded orderLines paddedOrderLines :=
  .idle (.prose (by decide +kernel)) <| .kept _ <| .idle (.unknown (by decide +kernel)) <| .kept _ <|
    .idle (.malformed (.response (Or.inr (by decide +kernel)) (Or.inl (by decide +kernel)))) .nil

theorem applyComment_padded_order :
    Line.Padded orderLines paddedOrderLines ∧ (∃ line ∈ orderLines, Line.IsTagged line) ∧
      applyComment bareModel.logged (start "shop") paddedOrderLines ((), []) =
        applyComment bareModel.logged (start "shop") orderLines ((), []) ∧
      applyComment bareModel (start "shop") paddedOrderLines () =
        applyComment bareModel (start "shop") orderLines () := by
  have hdirective : ∃ line ∈ orderLines, Line.IsTagged line :=
    ⟨"@Param id path string true", by decide +kernel, by decide +kernel⟩
  exact ⟨padded_orderLines, hdirective,
    applyComment_padded bareModel "shop" padded_orderLines hdirective ()⟩

end Draft

end ApiScribe
