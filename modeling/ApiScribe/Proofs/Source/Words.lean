import ApiScribe.Source.Language
import Mathlib.Data.List.TakeWhile

/-!
# The names of declared types are words

* `Tree.tokens`, `Phrase.tokens` — the tokens that a tree or a phrase is made of; grouping
  (`mem_of_ofTokens?`) and matching (`Grammar.keeps_read`) bring none in;
* `read_eq_ok_iff` — a Rust source is read as the file that it is matched as;
* `isWord_of_file?` — the names in this file are words;
* `dotless_of_mem_types` — the name of a type that a source declares is one of its words, or empty, so
  there is no dot in it.
-/

namespace ApiScribe

namespace Text

def Dotless (s : String) : Prop := '.' ∉ s.toList

/-- Whether a character may stand in a word; a hash sign marks words that are kept as they are. -/
def isNamePart (c : Char) : Bool := isIdentifierStart c || isIdentifierRest c || c == '#'

/-- A text that consists of the characters of words. -/
def IsWord (s : String) : Prop := ∀ c ∈ s.toList, isNamePart c = true

theorem IsWord.not_mem {s : String} (h : IsWord s) {c : Char} (hc : isNamePart c = false) :
    c ∉ s.toList := fun hmem => Bool.false_ne_true (hc.symm.trans (h c hmem))

theorem IsWord.dotless {s : String} (h : IsWord s) : Dotless s := h.not_mem (by decide)

theorem isWord_of_all {s : String} (h : s.toList.all isNamePart = true) : IsWord s :=
  List.all_eq_true.mp h

theorem isWord_empty : IsWord "" := fun _ h => nomatch h

theorem isWord_identifier {c : Char} (cs : List Char) (hc : isIdentifierStart c = true) :
    IsWord (String.ofList (c :: cs.takeWhile isIdentifierRest)) := by
  intro c' h
  rw [String.toList_ofList] at h
  rcases List.mem_cons.mp h with rfl | h
  · simp [isNamePart, hc]
  · simp [isNamePart, List.mem_takeWhile_imp h]

end Text

/-! ### Tokens of trees -/

namespace Tree

variable {α : Type}

mutual

/-- The tokens of a tree, but for its brackets. -/
def tokens : Tree α → List α
  | leaf t => [t]
  | group _ _ _ items => tokensIn items

def tokensIn : List (Tree α) → List α
  | [] => []
  | t :: ts => t.tokens ++ tokensIn ts

end

theorem mem_tokensIn {ts : List (Tree α)} {x : α} : x ∈ tokensIn ts ↔ ∃ t ∈ ts, x ∈ t.tokens := by
  induction ts with
  | nil => simp [tokensIn]
  | cons t ts ih => simp [tokensIn, ih]

theorem tokensIn_mono {ts us : List (Tree α)} (h : ts ⊆ us) : tokensIn ts ⊆ tokensIn us := by
  intro x hx
  obtain ⟨t, ht, hxt⟩ := mem_tokensIn.mp hx
  exact mem_tokensIn.mpr ⟨t, h ht, hxt⟩

/-- The tokens of some trees and of the trees before them in pending groups. -/
def held (pending : List (Pending α)) (done : List (Tree α)) : List α :=
  tokensIn done ++ pending.flatMap fun p => tokensIn p.before

theorem mem_held {pending : List (Pending α)} {done : List (Tree α)} {x : α} :
    x ∈ held pending done ↔ x ∈ tokensIn done ∨ ∃ p ∈ pending, x ∈ tokensIn p.before := by
  rw [held, List.mem_append, List.mem_flatMap]

/-- Closing a group, with a bracket or without, brings no tokens in. -/
theorem held_closed_subset (p : Pending α) (pending : List (Pending α)) (closing : α)
    (done : List (Tree α)) :
    held pending (group p.delimiter p.opening closing done.reverse :: p.before) ⊆
      held (p :: pending) done := by
  intro x hx
  rcases mem_held.mp hx with hx | ⟨q, hq, hx⟩
  · rcases List.mem_append.mp hx with hx | hx
    · exact mem_held.mpr (Or.inl (tokensIn_mono (fun _ => List.mem_reverse.mp) hx))
    · exact mem_held.mpr (Or.inr ⟨p, List.mem_cons_self, hx⟩)
  · exact mem_held.mpr (Or.inr ⟨q, List.mem_cons_of_mem _ hq, hx⟩)

theorem tokensIn_shutAll_subset (pending : List (Pending α)) (done : List (Tree α)) :
    tokensIn (shutAll pending done) ⊆ held pending done := by
  induction pending generalizing done with
  | nil => exact List.subset_append_left _ _
  | cons p pending ih => exact List.Subset.trans (ih (p.shut done)) (held_closed_subset p pending _ done)

theorem held_closeAt?_subset {d : Delimiter} {closing : α} {pending pending' : List (Pending α)}
    {done done' : List (Tree α)} (h : closeAt? d closing pending done = some (pending', done')) :
    held pending' done' ⊆ held pending done := by
  induction pending generalizing done with
  | nil => cases h
  | cons p pending ih =>
    unfold closeAt? at h
    split at h
    · rename_i hd
      cases h
      exact hd ▸ held_closed_subset p _ closing done
    · exact List.Subset.trans (ih h) (held_closed_subset p pending _ done)

theorem tokensIn_mend_subset (nesting : α → Nesting) (ts : List α) (pending : List (Pending α))
    (done : List (Tree α)) : tokensIn (mend nesting ts pending done) ⊆ ts ++ held pending done := by
  induction ts generalizing pending done with
  | nil =>
    intro x hx
    exact tokensIn_shutAll_subset pending done (tokensIn_mono (fun _ => List.mem_reverse.mp) hx)
  | cons t ts ih =>
    intro x hx
    rw [List.cons_append, List.mem_cons, List.mem_append]
    unfold mend at hx
    split at hx
    · rcases List.mem_append.mp (ih _ _ hx) with hx | hx
      · exact Or.inr (Or.inl hx)
      · exact (List.mem_cons.mp hx).imp_right Or.inr
    · rcases List.mem_append.mp (ih _ _ hx) with hx | hx
      · exact Or.inr (Or.inl hx)
      · exact Or.inr (Or.inr hx)
    · split at hx
      · rename_i hclose
        exact Or.inr ((List.mem_append.mp (ih _ _ hx)).imp_right (held_closeAt?_subset hclose ·))
      · exact Or.inr (List.mem_append.mp (ih _ _ hx))

theorem mem_of_ofTokens {nesting : α → Nesting} {ts : List α} {x : α}
    (hx : x ∈ tokensIn (ofTokens nesting ts)) : x ∈ ts :=
  (List.mem_append.mp (tokensIn_mend_subset nesting ts [] [] hx)).resolve_right List.not_mem_nil

/-- Where brackets match, nothing has to be mended. -/
theorem mend_eq_of_grow {nesting : α → Nesting} {ts : List α} {pending : List (Pending α)}
    {done trees : List (Tree α)} (h : grow nesting ts pending done = some trees) :
    mend nesting ts pending done = trees := by
  induction ts generalizing pending done with
  | nil =>
    cases pending with
    | nil =>
      cases h
      rfl
    | cons p pending => cases h
  | cons t ts ih =>
    unfold grow at h
    unfold mend
    split at h
    · exact ih h
    · exact ih h
    · cases pending with
      | nil => cases h
      | cons p pending =>
        dsimp only at h
        split at h
        · rename_i hd
          rw [closeAt?, if_pos hd]
          exact ih h
        · cases h

theorem ofTokens_eq {nesting : α → Nesting} {ts : List α} {trees : List (Tree α)}
    (h : ofTokens? nesting ts = some trees) : ofTokens nesting ts = trees :=
  mend_eq_of_grow h

theorem mem_of_ofTokens? {nesting : α → Nesting} {ts : List α} {trees : List (Tree α)}
    (h : ofTokens? nesting ts = some trees) {x : α} (hx : x ∈ tokensIn trees) : x ∈ ts :=
  mem_of_ofTokens (ofTokens_eq h ▸ hx)

end Tree

theorem mem_of_mem_splitRuns {α : Type} {p : α → Bool} {xs run : List α} (h : run ∈ splitRuns p xs) :
    run ⊆ xs := by
  induction xs generalizing run with
  | nil =>
    rw [List.mem_singleton.mp h]
    exact List.nil_subset _
  | cons x xs ih =>
    unfold splitRuns at h
    split at h
    · rcases List.mem_cons.mp h with rfl | h
      · exact List.nil_subset _
      · exact List.subset_cons_of_subset _ (ih h)
    · split at h
      · rw [List.mem_singleton.mp h]
        exact List.cons_subset_cons _ (List.nil_subset _)
      · rename_i r rs heq
        rcases List.mem_cons.mp h with rfl | h
        · exact List.cons_subset_cons _ (ih (heq ▸ List.mem_cons_self))
        · exact List.subset_cons_of_subset _ (ih (heq ▸ List.mem_cons_of_mem _ h))

/-! ### Go -/

namespace GoToken

theorem dotless_of_scan {c : Char} {cs word : List Char} (h : (scan c cs).1 = .token .name word) :
    Text.Dotless (String.ofList word) := by
  unfold scan at h
  split at h
  · cases h
  split at h
  · cases h
  split at h
  · rename_i hstart
    rw [← (Lexeme.token.inj h).2]
    exact (Text.isWord_identifier cs hstart).dotless
  split at h
  · cases h
  split at h
  · cases h
  split at h
  · cases h
  split at h
  · cases h
  split at h
  · cases h
  split at h
  · cases h
  · cases h
  · cases h
  · cases h
  · split at h
    · cases h
    · cases h
  · cases h

/-- A token among the pieces of a text is what some of the text starts with. -/
theorem exists_scan_of_mem_lexemes {fuel : Nat} {cs word : List Char} {kind : Kind}
    (h : .token kind word ∈ lexemes fuel cs) : ∃ c rest, (scan c rest).1 = .token kind word := by
  induction fuel generalizing cs with
  | zero => cases h
  | succ fuel ih =>
    cases cs with
    | nil => cases h
    | cons c cs =>
      rcases List.mem_cons.mp h with h | h
      · exact ⟨c, cs, h.symm⟩
      · exact ih h

theorem mem_of_mem_place {start row : Nat} {ends : Bool} {ls : List Lexeme} {t : GoToken}
    (h : t ∈ place start row ends ls) (hkind : t.kind ≠ .stop) :
    ∃ word, .token t.kind word ∈ ls ∧ t.text = String.ofList word := by
  induction ls generalizing start row ends with
  | nil => cases h
  | cons l ls ih =>
    have hrest : ∀ {start row ends}, t ∈ place start row ends ls →
        ∃ word, .token t.kind word ∈ l :: ls ∧ t.text = String.ofList word := by
      intro start row ends h
      obtain ⟨word, hword, htext⟩ := ih h
      exact ⟨word, List.mem_cons_of_mem _ hword, htext⟩
    cases l with
    | blank cs => exact hrest h
    | newline =>
      unfold place at h
      dsimp only at h
      split at h
      · rcases List.mem_cons.mp h with rfl | h
        · exact absurd rfl hkind
        · exact hrest h
      · exact hrest h
    | token kind cs =>
      rcases List.mem_cons.mp h with rfl | h
      · exact ⟨cs, List.mem_cons_self, rfl⟩
      · exact hrest h

theorem exists_scan_of_mem_ofSource {cs : List Char} {t : GoToken} (h : t ∈ ofSource cs)
    (hkind : t.kind ≠ .stop) :
    ∃ c rest word, (scan c rest).1 = .token t.kind word ∧ t.text = String.ofList word := by
  obtain ⟨word, hword, htext⟩ := mem_of_mem_place h hkind
  obtain ⟨c, rest, hscan⟩ := exists_scan_of_mem_lexemes hword
  exact ⟨c, rest, word, hscan, htext⟩

theorem dotless_of_mem_ofSource {cs : List Char} {t : GoToken} (h : t ∈ ofSource cs)
    (hkind : t.kind = .name) : Text.Dotless t.text := by
  obtain ⟨c, rest, word, hscan, htext⟩ := exists_scan_of_mem_ofSource h (by simp [hkind])
  rw [htext]
  rw [hkind] at hscan
  exact dotless_of_scan hscan

end GoToken

theorem GoTree.mem_of_name? {t : GoTree} {name : String} (h : GoTree.name? t = some name) :
    ∃ token ∈ t.tokens, token.kind = .name ∧ token.text = name := by
  unfold GoTree.name? at h
  split at h
  · rename_i token
    split at h
    · rename_i hkind
      exact ⟨token, List.mem_singleton_self _, hkind, Option.some.inj h⟩
    · cases h
  · cases h

namespace GoDeclaration

theorem bare_subset (ts : List GoTree) : bare ts ⊆ ts := by
  intro t h
  have h := (List.dropWhile_sublist _).subset (List.mem_reverse.mp h)
  exact (List.dropWhile_sublist _).subset (List.mem_reverse.mp h)

theorem tokensIn_specs {ts spec : List GoTree} (h : spec ∈ specs ts) :
    Tree.tokensIn spec ⊆ Tree.tokensIn ts := by
  unfold specs at h
  split at h
  · rename_i items rest heq
    have hgroup : Tree.group .paren _ _ items ∈ ts :=
      bare_subset ts (heq ▸ List.mem_cons_self)
    intro x hx
    exact Tree.mem_tokensIn.mpr ⟨_, hgroup, Tree.tokensIn_mono (mem_of_mem_splitRuns h) hx⟩
  · rw [List.mem_singleton.mp h]
    exact Tree.tokensIn_mono (bare_subset ts)

/-- The name of a declared type is a name among the trees of its declaration. -/
theorem mem_of_typeSpec? {source : List Char} {ts : List GoTree} {decl : TypeDecl}
    (h : typeSpec? source ts = some decl) :
    ∃ token ∈ Tree.tokensIn ts, token.kind = .name ∧ token.text = decl.name := by
  unfold typeSpec? at h
  split at h
  · cases h
  · rename_i t rest heq
    split at h
    · cases h
    · rename_i name hname
      obtain ⟨token, htoken, hkind, htext⟩ := GoTree.mem_of_name? hname
      have hmem : token ∈ Tree.tokensIn ts :=
        Tree.mem_tokensIn.mpr ⟨t, bare_subset ts (heq ▸ List.mem_cons_self), htoken⟩
      refine ⟨token, hmem, hkind, htext.trans ?_⟩
      dsimp only at h
      split at h
      · cases h
      · split at h
        · cases h
          rfl
        · split at h
          · cases h
            rfl
          · cases h
            rfl

end GoDeclaration

namespace GoUnit

theorem subset_of_mem_flush {pending trees : List GoTree} {row : Nat}
    (h : .declaration row trees ∈ flush pending) : trees ⊆ pending := by
  have htrees : (pending.reverse.dropWhile GoTree.isComment).reverse ⊆ pending := fun t ht =>
    List.mem_reverse.mp ((List.dropWhile_sublist _).subset (List.mem_reverse.mp ht))
  unfold flush at h
  dsimp only at h
  rcases List.mem_append.mp h with h | h
  · split at h
    · cases h
    · cases List.mem_singleton.mp h
      exact htrees
  · obtain ⟨_, _, h⟩ := List.mem_map.mp h
    cases h

theorem subset_of_mem_items {pending ts trees : List GoTree} {row : Nat}
    (h : .declaration row trees ∈ items pending ts) : trees ⊆ pending ++ ts := by
  induction ts generalizing pending with
  | nil =>
    rw [List.append_nil]
    exact subset_of_mem_flush h
  | cons t ts ih =>
    unfold items at h
    split at h
    · rcases List.mem_append.mp h with h | h
      · exact List.subset_append_of_subset_left _ (subset_of_mem_flush h)
      · exact List.subset_append_of_subset_right _ (List.subset_cons_of_subset _ (ih h))
    · split at h
      · rcases List.mem_cons.mp h with h | h
        · cases h
        · exact List.subset_append_of_subset_right _ (List.subset_cons_of_subset _ (ih h))
      · simpa using ih h

/-- What holds of all types that the declarations among some items declare holds of the types of the
unit. -/
theorem types_collect {P : TypeDecl → Prop} {source : List Char} {is : List Item}
    (his : ∀ row trees, .declaration row trees ∈ is → ∀ spec ∈ GoDeclaration.specs trees.tail,
      ∀ decl, GoDeclaration.typeSpec? source spec = some decl → P decl)
    {u : SourceUnit} (hu : ∀ decl ∈ u.types, P decl) (block : Block) :
    ∀ decl ∈ (collect source u block is).types, P decl := by
  induction is generalizing u block with
  | nil => exact hu
  | cons i is ih =>
    have his' := fun row trees h => his row trees (List.mem_cons_of_mem _ h)
    cases i with
    | comment lines row lastRow =>
      refine ih his' ?_ _
      exact hu
    | declaration row trees =>
      refine ih his' ?_ _
      intro decl hdecl
      unfold declare at hdecl
      split at hdecl
      · exact hu decl hdecl
      · rename_i keyword rest
        split at hdecl
        · exact hu decl hdecl
        · split at hdecl
          · rcases List.mem_append.mp hdecl with hdecl | hdecl
            · exact hu decl hdecl
            · obtain ⟨spec, hspec, hsome⟩ := List.mem_filterMap.mp hdecl
              exact his row _ List.mem_cons_self spec hspec decl hsome
          · exact hu decl hdecl

theorem dotless_of_mem_types {path source : String} {decl : TypeDecl}
    (h : decl ∈ (read path source).types) : Text.Dotless decl.name := by
  unfold read at h
  refine types_collect (P := fun decl => Text.Dotless decl.name) ?_
    (fun _ h => absurd h List.not_mem_nil) none decl h
  intro row trees hmem spec hspec decl hdecl
  obtain ⟨token, htoken, hkind, htext⟩ := GoDeclaration.mem_of_typeSpec? hdecl
  have htree := GoDeclaration.tokensIn_specs hspec htoken
  have hsource := Tree.tokensIn_mono (List.tail_sublist trees).subset htree
  have hsource := Tree.tokensIn_mono (subset_of_mem_items hmem) hsource
  rw [List.nil_append] at hsource
  rw [← htext]
  exact GoToken.dotless_of_mem_ofSource (Tree.mem_of_ofTokens hsource) hkind

end GoUnit

/-! ### Phrases -/

namespace Phrase

variable {κ α : Type}

mutual

def tokens : Phrase κ α → List α
  | leaf t => t.tokens
  | node _ ps => tokensIn ps

def tokensIn : List (Phrase κ α) → List α
  | [] => []
  | p :: ps => p.tokens ++ tokensIn ps

end

theorem mem_tokensIn {ps : List (Phrase κ α)} {x : α} :
    x ∈ tokensIn ps ↔ ∃ p ∈ ps, x ∈ p.tokens := by
  induction ps with
  | nil => simp [tokensIn]
  | cons p ps ih => simp [tokensIn, ih]

theorem tokensIn_append (ps qs : List (Phrase κ α)) :
    tokensIn (ps ++ qs) = tokensIn ps ++ tokensIn qs := by
  induction ps with
  | nil => rfl
  | cons p ps ih => rw [List.cons_append, tokensIn, ih, tokensIn, List.append_assoc]

theorem tokens_subset_of_mem_parts {p q : Phrase κ α} (h : q ∈ p.parts) : q.tokens ⊆ p.tokens := by
  cases p with
  | leaf t => cases h
  | node k ps => exact fun x hx => mem_tokensIn.mpr ⟨q, h, hx⟩

end Phrase

/-- What a reader takes and what it leaves has its tokens from what is read. -/
def Reader.Keeps {κ α : Type} (r : Reader κ α) : Prop :=
  ∀ {ts ps rest}, r ts = some (ps, rest) →
    Phrase.tokensIn ps ⊆ Tree.tokensIn ts ∧ Tree.tokensIn rest ⊆ Tree.tokensIn ts

namespace Rule

variable {κ α : Type}

theorem keeps_nothing {ts rest : List (Tree α)} {ps : List (Phrase κ α)}
    (h : some (([] : List (Phrase κ α)), ts) = some (ps, rest)) :
    Phrase.tokensIn ps ⊆ Tree.tokensIn ts ∧ Tree.tokensIn rest ⊆ Tree.tokensIn ts := by
  cases h
  exact ⟨List.nil_subset _, List.Subset.refl _⟩

/-- One reader behind another keeps tokens if both do. -/
theorem keeps_then {r : Reader κ α} {ts ts' rest : List (Tree α)} {ps qs : List (Phrase κ α)}
    (hfirst : Phrase.tokensIn ps ⊆ Tree.tokensIn ts ∧ Tree.tokensIn ts' ⊆ Tree.tokensIn ts)
    (hr : r.Keeps) (h : (r ts').map (fun (qs, ts) => (ps ++ qs, ts)) = some (qs, rest)) :
    Phrase.tokensIn qs ⊆ Tree.tokensIn ts ∧ Tree.tokensIn rest ⊆ Tree.tokensIn ts := by
  obtain ⟨⟨qs', rest'⟩, hrun, heq⟩ := Option.map_eq_some_iff.mp h
  cases heq
  obtain ⟨hqs, hrest⟩ := hr hrun
  rw [Phrase.tokensIn_append]
  have hrest' := List.Subset.trans hrest hfirst.2
  exact ⟨List.append_subset.mpr ⟨hfirst.1, List.Subset.trans hqs hfirst.2⟩, hrest'⟩

theorem keeps_repeatedly {r : Reader κ α} (hr : r.Keeps) (n : Nat) : (repeatedly r n).Keeps := by
  induction n with
  | zero => exact keeps_nothing
  | succ n ih =>
    intro ts ps rest h
    unfold repeatedly at h
    split at h
    · exact keeps_nothing h
    · rename_i hrun
      exact keeps_then (hr hrun) ih h

/-- **Matching a rule brings no tokens in**, if none of the names does. -/
theorem keeps_run {names : κ → Reader κ α} (h : ∀ k, (names k).Keeps) (r : Rule κ α) :
    (run names r).Keeps := by
  induction r with
  | nothing => exact keeps_nothing
  | one p =>
    intro ts ps rest hrun
    unfold run at hrun
    split at hrun
    · split at hrun
      · cases hrun
        refine ⟨?_, List.subset_append_right _ _⟩
        simp [Phrase.tokensIn, Phrase.tokens, Tree.tokensIn]
      · cases hrun
    · cases hrun
  | within d r ih =>
    intro ts ps rest hrun
    unfold run at hrun
    split at hrun
    · split at hrun
      · split at hrun
        · rename_i hinside
          cases hrun
          exact ⟨List.Subset.trans (ih hinside).1 (List.subset_append_left _ _),
            List.subset_append_right _ _⟩
        · cases hrun
      · cases hrun
    · cases hrun
  | both a b iha ihb =>
    intro ts ps rest hrun
    unfold run at hrun
    split at hrun
    · cases hrun
    · rename_i ha
      exact keeps_then (iha ha) ihb hrun
  | either a b iha ihb =>
    intro ts ps rest hrun
    unfold run at hrun
    split at hrun
    · exact ihb hrun
    · rename_i ha
      cases hrun
      exact iha ha
  | many r ih => exact keeps_repeatedly ih _
  | ahead r ih =>
    intro ts ps rest hrun
    unfold run at hrun
    split at hrun
    · exact keeps_nothing hrun
    · cases hrun
  | absent r ih =>
    intro ts ps rest hrun
    unfold run at hrun
    split at hrun
    · cases hrun
    · exact keeps_nothing hrun
  | stop =>
    intro ts ps rest hrun
    unfold run at hrun
    split at hrun
    · exact keeps_nothing hrun
    · cases hrun
  | call k => exact h k

end Rule

/-- **Matching a grammar brings no tokens in.** -/
theorem Grammar.keeps_read {κ α : Type} (g : Grammar κ α) (depth : Nat) (k : κ) :
    (g.read depth k).Keeps := by
  induction depth generalizing k with
  | zero => exact fun h => nomatch h
  | succ depth ih =>
    intro ts ps rest h
    obtain ⟨⟨qs, rest'⟩, hrun, heq⟩ := Option.map_eq_some_iff.mp h
    cases heq
    have hkept := Rule.keeps_run ih (g k) hrun
    simpa [Phrase.tokensIn, Phrase.tokens] using hkept

/-! ### Rust -/

namespace RustToken

/-- The names among some tokens are words. -/
def NamesAreWords (ts : List RustToken) : Prop := ∀ word, name word ∈ ts → Text.IsWord word

theorem namesAreWords_nil : NamesAreWords [] := fun _ h => nomatch h

theorem NamesAreWords.append {ts us : List RustToken} (h : NamesAreWords ts)
    (h' : NamesAreWords us) : NamesAreWords (ts ++ us) :=
  fun word hword => (List.mem_append.mp hword).elim (h word) (h' word)

theorem namesAreWords_singleton {t : RustToken} (h : ∀ word, t ≠ name word) : NamesAreWords [t] :=
  fun word hword => absurd (List.mem_singleton.mp hword).symm (h word)

theorem namesAreWords_docAttribute {inner : Bool} {cs : List Char} {ts : List RustToken}
    (h : docAttribute inner cs = some ts) : NamesAreWords ts := by
  intro word hword
  unfold docAttribute at h
  split at h
  · cases h
    have hdoc : word = "doc" := by
      cases inner <;> simpa using hword
    rw [hdoc]
    exact Text.isWord_of_all (by decide)
  · cases h

theorem isWord_plainWord {cs word : List Char} {rest : Rest}
    (h : plainWord cs = some (word, rest)) : Text.IsWord (String.ofList word) := by
  unfold plainWord at h
  split at h
  · split at h
    · rename_i hstart
      cases h
      exact Text.isWord_identifier _ hstart
    · cases h
  · cases h

theorem isWord_of_word {cs : List Char} {text : String} {rest : Rest}
    (h : word cs = some (text, rest)) : Text.IsWord text := by
  unfold word at h
  split at h
  · split at h
    · rename_i hword
      split at h
      · cases h
      · cases h
        intro c hc
        rw [String.toList_append] at hc
        rcases List.mem_append.mp hc with hc | hc
        · have hmark : Text.IsWord "r#" := Text.isWord_of_all (by decide)
          exact hmark c hc
        · exact isWord_plainWord hword c hc
    · cases h
  · obtain ⟨⟨w, r⟩, hword, heq⟩ := Option.map_eq_some_iff.mp h
    cases heq
    exact isWord_plainWord hword

/-- The names that are read are words. -/
def ReadsWords (x : Option (List RustToken × Rest)) : Prop :=
  ∀ ts rest, x = some (ts, rest) → NamesAreWords ts

theorem readsWords_none : ReadsWords none := fun _ _ h => nomatch h

theorem readsWords_some {ts : List RustToken} {rest : Rest} (h : NamesAreWords ts) :
    ReadsWords (some (ts, rest)) := by
  rintro _ _ ⟨⟩
  exact h

theorem readsWords_map {β : Type} {x : Option β} {f : β → List RustToken × Rest}
    (h : ∀ a, x = some a → NamesAreWords (f a).1) : ReadsWords (x.map f) := by
  intro ts rest hx
  obtain ⟨a, ha, heq⟩ := Option.map_eq_some_iff.mp hx
  have hf := h a ha
  rw [heq] at hf
  exact hf

theorem readsWords_doc (inner : Bool) (cs : List Char) (rest : Rest) :
    ReadsWords ((docAttribute inner cs).map fun ts => (ts, rest)) :=
  readsWords_map fun _ h => namesAreWords_docAttribute h

theorem readsWords_comment (x : Option (List Char × Rest)) :
    ReadsWords (x.map fun (_, rest) => ([], rest)) := readsWords_map fun _ _ => namesAreWords_nil

theorem readsWords_textToken (x : Option (List Char × Rest)) : ReadsWords (textToken x) :=
  readsWords_map fun _ _ => namesAreWords_singleton (by simp)

theorem readsWords_otherLiteral (x : Option (List Char × Rest)) :
    ReadsWords (otherLiteral x) :=
  readsWords_map fun _ _ => namesAreWords_singleton (by simp)

theorem readsWords_quote (cs : List Char) : ReadsWords (quote cs) := by
  unfold quote
  split
  · exact readsWords_some (namesAreWords_singleton (by simp))
  · split
    · split
      · exact readsWords_none
      · exact readsWords_some (namesAreWords_singleton (by simp))
    · exact readsWords_none

theorem readsWords_word (cs : List Char) :
    ReadsWords ((word cs).map fun (w, rest) => ([name w], rest)) := by
  refine readsWords_map fun a ha text htext => ?_
  cases List.mem_singleton.mp htext
  exact isWord_of_word ha

theorem readsWords_next (cs : List Char) : ReadsWords (next cs) := by
  unfold next
  split
  · exact readsWords_some namesAreWords_nil
  · exact readsWords_doc _ _ _
  · exact readsWords_doc _ _ _
  · exact readsWords_some namesAreWords_nil
  · exact readsWords_some namesAreWords_nil
  · exact readsWords_comment _
  · split
    · exact readsWords_doc _ _ _
    · exact readsWords_none
  · split
    · exact readsWords_doc _ _ _
    · exact readsWords_none
  · exact readsWords_comment _
  · exact readsWords_textToken _
  · exact readsWords_textToken _
  · exact readsWords_otherLiteral _
  · exact readsWords_otherLiteral _
  · exact readsWords_otherLiteral _
  · exact readsWords_otherLiteral _
  · exact readsWords_otherLiteral _
  · exact readsWords_otherLiteral _
  · exact readsWords_map fun _ _ => namesAreWords_singleton (by simp)
  · exact readsWords_quote _
  · split
    · exact readsWords_textToken _
    · split
      · exact readsWords_none
      · exact readsWords_word _
  · split
    · exact readsWords_some namesAreWords_nil
    · split
      · split
        · dsimp only
          split
          · exact readsWords_none
          · exact readsWords_some (namesAreWords_singleton (by simp))
        · exact readsWords_none
      · split
        · exact readsWords_some (namesAreWords_singleton (by simp))
        · split
          · exact readsWords_some (namesAreWords_singleton (by simp))
          · exact readsWords_word _
  · exact readsWords_none

theorem namesAreWords_scan {fuel : Nat} {cs : List Char} {ts : List RustToken}
    (h : scan fuel cs = some ts) : NamesAreWords ts := by
  induction fuel generalizing cs ts with
  | zero =>
    cases cs with
    | nil =>
      cases h
      exact namesAreWords_nil
    | cons c cs => cases h
  | succ fuel ih =>
    cases cs with
    | nil =>
      cases h
      exact namesAreWords_nil
    | cons c cs =>
      unfold scan at h
      split at h
      · rename_i hnext
        obtain ⟨us, hus, rfl⟩ := Option.map_eq_some_iff.mp h
        exact (readsWords_next _ _ _ hnext).append (ih hus)
      · cases h

end RustToken

namespace RustUnit

open RustGrammar

theorem mem_of_mem_trees {p : RustPhrase} {t : RustTree} (h : t ∈ p.trees) : t.tokens ⊆ p.tokens := by
  obtain ⟨q, hq, htree⟩ := List.mem_filterMap.mp h
  cases q with
  | leaf t' =>
    cases htree
    exact Phrase.tokens_subset_of_mem_parts hq
  | node k ps => cases htree

theorem mem_of_nameOf? {p : RustPhrase} {t : RustTree} (ht : t ∈ p.trees) {text : String}
    (h : nameOf? t = some text) : .name text ∈ p.tokens := by
  refine mem_of_mem_trees ht ?_
  unfold nameOf? at h
  split at h
  · cases h
    exact List.mem_singleton_self _
  · cases h

/-- The word behind a given one is a name of the phrase, or there is none. -/
theorem mem_of_nameBehind (keyword : String) (p : RustPhrase) :
    nameBehind keyword p = "" ∨ .name (nameBehind keyword p) ∈ p.tokens := by
  unfold nameBehind
  split
  · rename_i t rest heq
    have ht : t ∈ p.trees :=
      (List.dropWhile_sublist _).subset (heq ▸ List.mem_cons_of_mem _ List.mem_cons_self)
    cases hname : nameOf? t with
    | none => exact Or.inl rfl
    | some text => exact Or.inr (mem_of_nameOf? ht hname)
  · exact Or.inl rfl

theorem name_of_mem_declare {depth : Nat} {u : SourceUnit} {attributes : List RustPhrase}
    {p : RustPhrase} {decl : TypeDecl} (h : decl ∈ (declare depth u attributes p).types) :
    decl ∈ u.types ∨ ∃ keyword, decl.name = nameBehind keyword p := by
  unfold declare at h
  split at h
  · exact Or.inl h
  · exact (List.mem_append.mp h).imp_right fun h => ⟨"struct", by rw [List.mem_singleton.mp h]; rfl⟩
  · exact (List.mem_append.mp h).imp_right fun h => ⟨"type", by rw [List.mem_singleton.mp h]⟩
  · exact (List.mem_append.mp h).imp_right fun h => ⟨"trait", by rw [List.mem_singleton.mp h]⟩
  · exact Or.inl h
  · exact Or.inl h
  · exact Or.inl h

/-- The name of a type that an item declares is a name of the item, or empty. -/
theorem name_of_mem_addItem {depth : Nat} {u : SourceUnit} {item : RustPhrase} {decl : TypeDecl}
    (h : decl ∈ (addItem depth u item).types) :
    decl ∈ u.types ∨ decl.name = "" ∨ .name decl.name ∈ item.tokens := by
  unfold addItem at h
  split at h
  · exact Or.inl h
  · split at h
    · rename_i p hp
      refine (name_of_mem_declare h).imp_right ?_
      rintro ⟨keyword, hname⟩
      rw [hname]
      exact (mem_of_nameBehind keyword p).imp_right fun h =>
        Phrase.tokens_subset_of_mem_parts (List.mem_of_find?_eq_some hp) h
    · exact Or.inl h

theorem name_of_mem_ofFile {depth : Nat} {path : String} {file : RustPhrase} {decl : TypeDecl}
    (h : decl ∈ (ofFile depth path file).types) :
    decl.name = "" ∨ .name decl.name ∈ file.tokens := by
  refine List.foldlRecOn (motive := fun u : SourceUnit => decl ∈ u.types →
    decl.name = "" ∨ .name decl.name ∈ file.tokens) _ _ ?_ ?_ h
  · exact fun h => nomatch h
  intro u ih item hitem h
  rcases name_of_mem_addItem h with h | h | h
  · exact ih h
  · exact Or.inl h
  · exact Or.inr (Phrase.tokens_subset_of_mem_parts (List.mem_filter.mp hitem).1 h)

/-- How deep the phrases of a source are inside each other at most. -/
def depthOf (source : String) : ℕ := 64 * (source.toList.length + 1)

/-- The file that a source is matched as. -/
def file? (source : String) : Option RustPhrase := do
  let tokens ← RustToken.ofSource? source.toList
  let trees ← Tree.ofTokens? RustToken.nesting tokens
  let (found, _) ← grammar.read (depthOf source) .file trees
  found.head?

/-- A source is read as the file that it is matched as. -/
theorem read_eq_ok_iff {source : String} {u : SourceUnit} (path : String) :
    read path source = .ok u ↔
      ∃ file, file? source = some file ∧ u = ofFile (depthOf source) path file := by
  have hread : read path source = (file? source).elim (.error (.parse path "")) fun file =>
      .ok (ofFile (depthOf source) path file) := by
    unfold read file? depthOf
    dsimp only [Option.bind_eq_bind]
    cases RustToken.ofSource? source.toList with
    | none => rfl
    | some tokens =>
      dsimp only [Option.bind_some]
      cases Tree.ofTokens? RustToken.nesting tokens with
      | none => rfl
      | some trees =>
        dsimp only [Option.bind_some]
        rcases grammar.read (64 * (source.toList.length + 1)) .file trees with
          _ | ⟨_ | ⟨file, behind⟩, rest⟩ <;> rfl
  rw [hread]
  cases file? source with
  | none => simp
  | some file => simp [eq_comm]

theorem tokens_of_file? {source : String} {file : RustPhrase} (h : file? source = some file) :
    ∃ tokens, RustToken.ofSource? source.toList = some tokens ∧ file.tokens ⊆ tokens := by
  obtain ⟨tokens, htokens, h⟩ := Option.bind_eq_some_iff.mp h
  obtain ⟨trees, htrees, h⟩ := Option.bind_eq_some_iff.mp h
  obtain ⟨⟨found, rest⟩, hfound, h⟩ := Option.bind_eq_some_iff.mp h
  refine ⟨tokens, htokens, fun t ht => Tree.mem_of_ofTokens? htrees ?_⟩
  exact (Grammar.keeps_read _ _ _ hfound).1
    (Phrase.mem_tokensIn.mpr ⟨file, List.mem_of_mem_head? h, ht⟩)

theorem isWord_of_file? {source : String} {file : RustPhrase} (h : file? source = some file)
    {word : String} (hword : .name word ∈ file.tokens) : Text.IsWord word := by
  obtain ⟨tokens, htokens, hsub⟩ := tokens_of_file? h
  exact RustToken.namesAreWords_scan htokens _ (hsub hword)

theorem dotless_of_mem_types {path source : String} {u : SourceUnit} (h : read path source = .ok u)
    {decl : TypeDecl} (hdecl : decl ∈ u.types) : Text.Dotless decl.name := by
  obtain ⟨file, hfile, rfl⟩ := (read_eq_ok_iff path).mp h
  rcases name_of_mem_ofFile hdecl with hname | hname
  · rw [hname]
    exact fun h => absurd h (by decide)
  · exact (isWord_of_file? hfile hname).dotless

end RustUnit

/-! ### Both languages -/

/-- **The name of a declared type has no dot.** -/
theorem Language.dotless_of_mem_types {l : Language} {path source : String} {u : SourceUnit}
    (h : l.read path source = .ok u) {decl : TypeDecl} (hdecl : decl ∈ u.types) :
    Text.Dotless decl.name := by
  cases l with
  | go =>
    cases h
    exact GoUnit.dotless_of_mem_types hdecl
  | rust => exact RustUnit.dotless_of_mem_types h hdecl

end ApiScribe
