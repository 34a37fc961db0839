import ApiScribe.Proofs.Model.Closure
import ApiScribe.Proofs.Model.Related

/-!
# One declaration in several contexts

The same type may be expanded in several runs, with other types under way and complete.  What its
names are found to mean is the same (`found_congr`), and each name stands for one of the
declarations along the names that it follows (`Denotes`).  So two expansions have the same properties,
and differ only where one of them refers to another name (`Content.Meets`): to a name that was being
followed, and not to the type at its end.
-/

namespace ApiScribe

/-! ### The same package under two ids -/

namespace TypeName

/-- What stands before the name of a type in its id. -/
def front (package : String) : List Char :=
  let dotted := (Text.strip (· == '/') package.toList).map fun c => if c = '/' then '.' else c
  if dotted.isEmpty then [] else dotted ++ ['.']

theorem toList_modelId (package name : String) :
    (modelId package name).toList = front package ++ name.toList := by
  unfold modelId front
  dsimp only
  split
  · rfl
  · simp

theorem modelId_congr {p q name : String} (h : modelId p name = modelId q name) (name' : String) :
    modelId p name' = modelId q name' := by
  have hlist := congrArg String.toList h
  rw [toList_modelId, toList_modelId] at hlist
  apply String.toList_injective
  rw [toList_modelId, toList_modelId, List.append_cancel_right hlist]

end TypeName

/-- Two ids of one package: they lead to one directory, and give the types in it the same ids. -/
structure SamePackage (w : Workspace) (p q : String) : Prop where
  location : w.location? p = w.location? q
  modelId : ∀ name, TypeName.modelId p name = TypeName.modelId q name

/-- One type of the files, with one id. -/
structure Same (w : Workspace) (d e : Declared) : Prop where
  decl : d.decl = e.decl
  location : w.location? d.package = w.location? e.package
  modelId : d.modelId = e.modelId

section

variable {w : Workspace}

theorem same_refl (w : Workspace) (d : Declared) : Same w d d := ⟨rfl, rfl, rfl⟩

theorem Same.package {d e : Declared} (h : Same w d e) : SamePackage w d.package e.package where
  location := h.location
  modelId := by
    have hid := h.modelId
    unfold Declared.modelId at hid
    rw [h.decl] at hid
    exact TypeName.modelId_congr hid

theorem SamePackage.same {p q : String} (h : SamePackage w p q) (decl : TypeDecl) :
    Same w { decl, package := p } { decl, package := q } := ⟨rfl, h.location, h.modelId decl.name⟩

theorem SamePackage.declared {p q : String} (h : SamePackage w p q) (name : String) :
    w.plain.declared p name = w.plain.declared q name := by
  unfold Workspace.plain
  dsimp only
  rw [h.location]

theorem SamePackage.imported {p q name : String} (h : SamePackage w p q)
    {packages : Option (List String)} (hp : w.plain.imported p name = .ok packages) :
    w.plain.imported q name = .ok packages := by
  unfold Workspace.plain at hp ⊢
  dsimp only at hp ⊢
  rw [← h.location]
  cases hloc : w.location? p with
  | none =>
    rw [hloc] at hp
    cases hp
  | some location =>
    rw [hloc] at hp
    exact hp

/-- **A name means the same type** in a package under two ids. -/
theorem found_congr {p q name : String} (h : SamePackage w p q) {d : Declared}
    (hd : w.found name p = .ok d) : ∃ e, w.found name q = .ok e ∧ Same w d e := by
  obtain ⟨decl, owner⟩ := d
  cases Workspace.found_ok.mp hd with
  | own hname hown =>
    refine ⟨{ decl, package := q }, Workspace.found_ok.mpr (.own hname ?_), h.same decl⟩
    rw [← h.declared]
    exact hown
  | item hname hown hitems hitem =>
    refine ⟨_, Workspace.found_ok.mpr (.item hname ?_ (h.imported hitems) hitem), same_refl w _⟩
    rw [← h.declared]
    exact hown
  | full hname hfull =>
    exact ⟨_, Workspace.found_ok.mpr (.full hname hfull), same_refl w _⟩
  | imported hname hfull hpath hpackages hfound =>
    exact ⟨_, Workspace.found_ok.mpr (.imported hname hfull hpath (h.imported hpackages) hfound),
      same_refl w _⟩

theorem same_of_found {p q name : String} (h : SamePackage w p q) {d e : Declared}
    (hd : w.found name p = .ok d) (he : w.found name q = .ok e) : Same w d e := by
  obtain ⟨e', he', hsame⟩ := found_congr h hd
  rw [he] at he'
  cases he'
  exact hsame

end

/-! ### What a name stands for -/

section

variable (w : Workspace) (overrides : Overrides)

/-- What a property may hold that refers to a name: each declaration along the names that it follows,
and the primitive at the end. -/
inductive Denotes : String → String → Content → Prop
  | primitive {name package primitive} (hname : TypeName.primitive? overrides name = some primitive) :
      Denotes name package (.primitive primitive)
  | declared {name package d} (hname : TypeName.primitive? overrides name = none)
      (hfound : w.found name package = .ok d) : Denotes name package (.model d)
  | synonym {name package d primitive} (hname : TypeName.primitive? overrides name = none)
      (hfound : w.found name package = .ok d) (hrole : d.role overrides = .primitive primitive) :
      Denotes name package (.primitive primitive)
  | follow {name package d target c} (hname : TypeName.primitive? overrides name = none)
      (hfound : w.found name package = .ok d) (hrole : d.role overrides = .follows target)
      (hrest : Denotes target d.package c) : Denotes name package c

/-- The content refers to a declaration that has no model of its own. -/
def Content.NamesAlias (c : Content) : Prop := ∃ d, c = .model d ∧ d.role overrides ≠ .model

/-- Equal contents, up to the spelling of packages. -/
inductive Content.Alike : Content → Content → Prop
  | primitive (name : String) : Alike (.primitive name) (.primitive name)
  | model {d e : Declared} (h : Same w d e) : Alike (.model d) (.model e)
  | pending (typeName : String) : Alike (.pending typeName) (.pending typeName)

/-- Equal contents, unless one of them refers to another name. -/
def Content.Meets (c c' : Content) : Prop :=
  c.Alike w c' ∨ c.NamesAlias overrides ∨ c'.NamesAlias overrides

end

section

variable {w : Workspace} {overrides : Overrides}

theorem content_alike_refl (c : Content) : c.Alike w c := by
  cases c with
  | primitive name => exact .primitive name
  | model d => exact .model (same_refl w d)
  | pending typeName => exact .pending typeName

theorem denotes_of_resolves : ∀ {trail name package done outcome done'},
    Build.Resolves w overrides trail name package done outcome done' →
    Denotes w overrides name package outcome.content
  | _, _, _, _, _, _, .primitive hname => .primitive hname
  | _, _, _, _, _, _, .known hname hfound _ => .declared hname hfound
  | _, _, _, _, _, _, .synonym hname hfound _ hrole => .synonym hname hfound hrole
  | _, _, _, _, _, _, .follow hname hfound _ hrole hrest =>
    .follow hname hfound hrole (denotes_of_resolves hrest)
  | _, _, _, _, _, _, .build hname hfound _ _ hmodel => by
    show Denotes w overrides _ _ (.model _)
    rw [hmodel.id_eq]
    exact .declared hname hfound

theorem namesAlias_of_role {d e : Declared} {role : Role} (hdecl : d.decl = e.decl)
    (hrole : e.role overrides = role) (hother : role ≠ .model) :
    (Content.model d).NamesAlias overrides := by
  refine ⟨d, rfl, ?_⟩
  rw [role_congr hdecl, hrole]
  exact hother

/-- **What two runs take a name to stand for** is the same, unless one of them stops at another
name. -/
theorem Denotes.meets {name p q : String} {c c' : Content} (h : Denotes w overrides name p c)
    (h' : Denotes w overrides name q c') (hpq : SamePackage w p q) : c.Meets w overrides c' := by
  induction h generalizing q with
  | primitive hname =>
    cases h' with
    | primitive hname' =>
      rw [hname] at hname'
      cases hname'
      exact Or.inl (.primitive _)
    | declared hname' => cases hname.symm.trans hname'
    | synonym hname' => cases hname.symm.trans hname'
    | follow hname' => cases hname.symm.trans hname'
  | declared hname hfound =>
    cases h' with
    | primitive hname' => cases hname.symm.trans hname'
    | declared _ hfound' => exact Or.inl (.model (same_of_found hpq hfound hfound'))
    | synonym _ hfound' hrole' =>
      have hsame := same_of_found hpq hfound hfound'
      exact Or.inr (Or.inl (namesAlias_of_role hsame.decl hrole' fun h => nomatch h))
    | follow _ hfound' hrole' =>
      have hsame := same_of_found hpq hfound hfound'
      exact Or.inr (Or.inl (namesAlias_of_role hsame.decl hrole' fun h => nomatch h))
  | synonym hname hfound hrole =>
    cases h' with
    | primitive hname' => cases hname.symm.trans hname'
    | declared _ hfound' =>
      have hsame := same_of_found hpq hfound hfound'
      exact Or.inr (Or.inr (namesAlias_of_role hsame.decl.symm hrole fun h => nomatch h))
    | synonym _ hfound' hrole' =>
      have hsame := same_of_found hpq hfound hfound'
      rw [role_congr hsame.decl, hrole'] at hrole
      cases hrole
      exact Or.inl (.primitive _)
    | follow _ hfound' hrole' =>
      have hsame := same_of_found hpq hfound hfound'
      rw [role_congr hsame.decl, hrole'] at hrole
      cases hrole
  | follow hname hfound hrole _ ih =>
    cases h' with
    | primitive hname' => cases hname.symm.trans hname'
    | declared _ hfound' =>
      have hsame := same_of_found hpq hfound hfound'
      exact Or.inr (Or.inr (namesAlias_of_role hsame.decl.symm hrole fun h => nomatch h))
    | synonym _ hfound' hrole' =>
      have hsame := same_of_found hpq hfound hfound'
      rw [role_congr hsame.decl, hrole'] at hrole
      cases hrole
    | follow _ hfound' hrole' hrest' =>
      have hsame := same_of_found hpq hfound hfound'
      rw [role_congr hsame.decl, hrole'] at hrole
      cases hrole
      exact ih hrest' hsame.package

end

/-! ### Two expansions of one declaration -/

section

variable (w : Workspace) (overrides : Overrides)

/-- Properties that were made of one field, with contents that meet. -/
structure Part.Meets (p q : Part) : Prop where
  inItems : p.inItems = q.inItems
  description : p.description = q.description
  content : p.content.Meets w overrides q.content

/-- Sketches of one declaration whose properties meet. -/
structure Sketch.Meets (s t : Sketch) : Prop where
  id : Same w s.id t.id
  related : ModelOf.Related (Part.Meets w overrides) s t

end

section

variable {w : Workspace} {overrides : Overrides}

theorem Content.Alike.pending_iff {c c' : Content} (h : c.Alike w c') (name : String) :
    c = .pending name ↔ c' = .pending name := by
  cases h with
  | primitive _ => exact ⟨(fun h => nomatch h), fun h => nomatch h⟩
  | model _ => exact ⟨(fun h => nomatch h), fun h => nomatch h⟩
  | pending _ => exact Iff.rfl

theorem part_meets_refl (p : Part) : p.Meets w overrides p :=
  ⟨rfl, rfl, Or.inl (content_alike_refl p.content)⟩

theorem Part.Meets.settle {p q : Part} (h : p.Meets w overrides q) (name : String) {c c' : Content}
    (hc : c.Meets w overrides c') :
    (p.settle name c).Meets w overrides (q.settle name c') := by
  have hkept : ∀ {p : Part} {c}, p.content.NamesAlias overrides →
      (p.settle name c).content.NamesAlias overrides := by
    rintro p c ⟨d, hd, hrole⟩
    unfold Part.settle
    rw [hd, if_neg (fun h => nomatch h)]
    exact ⟨d, hd, hrole⟩
  have hinItems : ∀ (p : Part) c, (p.settle name c).inItems = p.inItems := by
    intro p c
    unfold Part.settle
    split <;> rfl
  have hdescription : ∀ (p : Part) c, (p.settle name c).description = p.description := by
    intro p c
    unfold Part.settle
    split <;> rfl
  refine ⟨by rw [hinItems, hinItems, h.inItems], by rw [hdescription, hdescription, h.description], ?_⟩
  rcases h.content with halike | hp | hq
  · unfold Part.settle
    by_cases hpending : p.content = .pending name
    · rw [if_pos hpending, if_pos ((halike.pending_iff name).mp hpending)]
      exact hc
    · rw [if_neg hpending, if_neg (mt (halike.pending_iff name).mpr hpending)]
      exact Or.inl halike
  · exact Or.inr (Or.inl (hkept hp))
  · exact Or.inr (Or.inr (hkept hq))

theorem Sketch.Meets.settle {s t : Sketch} (h : s.Meets w overrides t) (name : String)
    {c c' : Content} (hc : c.Meets w overrides c') :
    (s.settle name c).Meets w overrides (t.settle name c') where
  id := h.id
  related := ⟨h.related.required, h.related.properties.map fun _ _ hpq => hpq.settle name hc⟩

theorem Sketch.Meets.foldl_merge {cs cs' : List Built} {s t : Sketch} (h : s.Meets w overrides t)
    (hcs : List.Forall₂ (fun c c' => c.1.Meets w overrides c'.1) cs cs') :
    (cs.foldl (fun s child => s.merge child.1) s).Meets w overrides
      (cs'.foldl (fun s child => s.merge child.1) t) := by
  induction hcs generalizing s t with
  | nil => exact h
  | cons hc _ ih => exact ih ⟨by simpa using h.id, h.related.merge hc.related⟩

theorem ofFields_eq (d e : Declared) (fields : List FieldDecl) :
    Sketch.ofFields overrides d fields = { Sketch.ofFields overrides e fields with id := d } := by
  have hadd : ∀ (s : Sketch) (f : FieldDecl),
      Sketch.addField overrides { s with id := d } f = { s.addField overrides f with id := d } := by
    intro s f
    unfold Sketch.addField
    split
    · dsimp only
      split
      · unfold ModelOf.markRequired
        dsimp only
        split <;> rfl
      · rfl
    · rfl
  exact @List.foldl_hom _ _ _ (fun s : Sketch => { s with id := d }) _ _ fields { id := e } hadd

theorem ofFields_meets {d e : Declared} (h : Same w d e) (fields : List FieldDecl) :
    (Sketch.ofFields overrides d fields).Meets w overrides (Sketch.ofFields overrides e fields) := by
  refine ⟨by rw [Sketch.id_ofFields, Sketch.id_ofFields]; exact h, ?_⟩
  rw [ofFields_eq d e]
  exact ⟨rfl, KeyMap.related_refl part_meets_refl _⟩

theorem typeNames_ofFields (d e : Declared) (fields : List FieldDecl) :
    (Sketch.ofFields overrides d fields).typeNames =
      (Sketch.ofFields overrides e fields).typeNames := by
  rw [ofFields_eq d e]
  rfl

theorem settlesAll_meets {t t' : Trail} {p q : String} (hpq : SamePackage w p q)
    {names : List String} {b b' built built' : Built} {done done' done₁ done₁' : List String}
    (h : Build.SettlesAll w overrides t p names b done built done₁)
    (h' : Build.SettlesAll w overrides t' q names b' done' built' done₁')
    (hb : b.1.Meets w overrides b'.1) : built.1.Meets w overrides built'.1 := by
  induction names generalizing b b' done done' with
  | nil =>
    cases h
    cases h'
    exact hb
  | cons name names ih =>
    cases h with
    | cons hfirst hrest =>
      cases h' with
      | cons hfirst' hrest' =>
        have hmeets := (denotes_of_resolves hfirst).meets (denotes_of_resolves hfirst') hpq
        exact ih hrest hrest' (hb.settle name hmeets)

theorem embedding_congr {t t' : Trail} {p q name : String} {d d' : Declared}
    (ht : t.embedding = t'.embedding) (hpq : SamePackage w p q)
    (hfound : w.found name p = .ok d) (hfound' : w.found name q = .ok d') :
    d.modelId ∈ t.embedding ↔ d'.modelId ∈ t'.embedding := by
  rw [ht, (same_of_found hpq hfound hfound').modelId]

mutual

theorem expands_meets : ∀ {t d done built done₁}, Build.Expands w overrides t d done built done₁ →
    ∀ {t' d' done' built' done₁'}, Build.Expands w overrides t' d' done' built' done₁' →
    t.embedding = t'.embedding → Same w d d' → built.1.Meets w overrides built'.1
  | _, d, _, _, _, .struct hkind hembedded hsettled, _, d', _, _, _, h', ht, hsame => by
    cases h' with
    | struct hkind' hembedded' hsettled' =>
      rw [hsame.decl, hkind'] at hkind
      cases hkind
      have hchildren := embedsAll_meets hembedded hembedded' ht hsame.package
      rw [typeNames_ofFields d d'] at hsettled
      exact settlesAll_meets hsame.package hsettled hsettled'
        ((ofFields_meets hsame _).foldl_merge hchildren)
    | bare hkind' =>
      rw [hsame.decl] at hkind
      exact absurd hkind (hkind' _)
  | _, d, _, _, _, .bare hkind, _, d', _, _, _, h', _, hsame => by
    cases h' with
    | struct hkind' =>
      rw [← hsame.decl] at hkind'
      exact absurd hkind' (hkind _)
    | bare => exact ⟨hsame, rfl, KeyMap.related_refl part_meets_refl _⟩

theorem embedsAll_meets : ∀ {t p fields done cs done₁},
    Build.EmbedsAll w overrides t p fields done cs done₁ →
    ∀ {t' q done' cs' done₁'}, Build.EmbedsAll w overrides t' q fields done' cs' done₁' →
    t.embedding = t'.embedding → SamePackage w p q →
    List.Forall₂ (fun c c' => c.1.Meets w overrides c'.1) cs cs'
  | _, _, _, _, _, _, .nil, _, _, _, _, _, h', _, _ => by
    cases h'
    exact .nil
  | _, _, _, _, _, _, .skip hfield hrest, _, _, _, _, _, h', ht, hpq => by
    cases h' with
    | skip _ hrest' => exact embedsAll_meets hrest hrest' ht hpq
    | field hfield' => cases hfield.symm.trans hfield'
  | _, _, _, _, _, _, .field hfield hfirst hrest, _, _, _, _, _, h', ht, hpq => by
    cases h' with
    | skip hfield' => cases hfield.symm.trans hfield'
    | field hfield' hfirst' hrest' =>
      cases hfield.symm.trans hfield'
      exact List.rel_append (embeds_meets hfirst hfirst' ht hpq)
        (embedsAll_meets hrest hrest' ht hpq)

theorem embeds_meets : ∀ {t name p done found done₁},
    Build.Embeds w overrides t name p done found done₁ →
    ∀ {t' q done' found' done₁'}, Build.Embeds w overrides t' name q done' found' done₁' →
    t.embedding = t'.embedding → SamePackage w p q →
    List.Forall₂ (fun c c' => c.1.Meets w overrides c'.1) found.toList found'.toList
  | _, _, _, _, _, _, .known hfound hknown, _, _, _, _, _, h', ht, hpq => by
    cases h' with
    | known => exact .nil
    | follow hfound' hnew' =>
      exact absurd ((embedding_congr ht hpq hfound hfound').mp hknown) hnew'
    | synonym hfound' hnew' =>
      exact absurd ((embedding_congr ht hpq hfound hfound').mp hknown) hnew'
    | expand hfound' hnew' =>
      exact absurd ((embedding_congr ht hpq hfound hfound').mp hknown) hnew'
  | _, _, _, _, _, _, .follow (d := d) hfound hnew hrole hrest, _, _, _, _, _, h', ht, hpq => by
    cases h' with
    | known hfound' hknown' =>
      exact absurd ((embedding_congr ht hpq hfound hfound').mpr hknown') hnew
    | follow hfound' _ hrole' hrest' =>
      have hsame := same_of_found hpq hfound hfound'
      rw [role_congr hsame.decl, hrole'] at hrole
      cases hrole
      refine embeds_meets hrest hrest' ?_ hsame.package
      show d.modelId :: _ = _ :: _
      rw [ht, hsame.modelId]
    | synonym hfound' _ hrole' =>
      have hsame := same_of_found hpq hfound hfound'
      rw [role_congr hsame.decl] at hrole
      exact absurd hrole (hrole' _)
    | expand hfound' _ hkind' =>
      have hsame := same_of_found hpq hfound hfound'
      rw [role_congr hsame.decl, Declared.role_of_kind hkind'] at hrole
      cases hrole
  | _, _, _, _, _, _, .synonym hfound hnew hrole hkind, _, _, _, _, _, h', ht, hpq => by
    cases h' with
    | known hfound' hknown' =>
      exact absurd ((embedding_congr ht hpq hfound hfound').mpr hknown') hnew
    | follow hfound' _ hrole' =>
      have hsame := same_of_found hpq hfound hfound'
      rw [← role_congr hsame.decl] at hrole'
      exact absurd hrole' (hrole _)
    | synonym => exact .nil
    | expand hfound' _ hkind' =>
      have hsame := same_of_found hpq hfound hfound'
      rw [hsame.decl] at hkind
      exact absurd hkind (hkind' _)
  | _, _, _, _, _, _, .expand (d := d) hfound hnew hkind hmodel, _, _, _, _, _, h', ht, hpq => by
    cases h' with
    | known hfound' hknown' =>
      exact absurd ((embedding_congr ht hpq hfound hfound').mpr hknown') hnew
    | follow hfound' _ hrole' =>
      have hsame := same_of_found hpq hfound hfound'
      rw [← role_congr hsame.decl, Declared.role_of_kind hkind] at hrole'
      cases hrole'
    | synonym hfound' _ _ hkind' =>
      have hsame := same_of_found hpq hfound hfound'
      rw [← hsame.decl] at hkind'
      exact absurd hkind' (hkind _)
    | expand hfound' _ _ hmodel' =>
      have hsame := same_of_found hpq hfound hfound'
      refine .cons (expands_meets hmodel hmodel' ?_ hsame) .nil
      show d.modelId :: _ = _ :: _
      rw [ht, hsame.modelId]

end

/-- **Two expansions of one declaration meet**, whatever was under way or complete. -/
theorem Build.Expansion.meets {s t : Sketch} (h : Build.Expansion w overrides s)
    (h' : Build.Expansion w overrides t) (hsame : Same w s.id t.id) : s.Meets w overrides t := by
  obtain ⟨trail, done, inner, done₁, ht, hrun⟩ := h
  obtain ⟨trail', done', inner', done₁', ht', hrun'⟩ := h'
  have hembedding : trail.embedding = trail'.embedding := by rw [ht, ht', hsame.modelId]
  exact expands_meets hrun hrun' hembedding hsame

/-! ### Equal models -/

theorem Content.Alike.text_eq {c c' : Content} (h : c.Alike w c') : c.text = c'.text := by
  cases h with
  | primitive _ => rfl
  | model h => exact h.modelId
  | pending _ => rfl

theorem Content.Alike.items_eq {c c' : Content} (h : c.Alike w c') : c.items = c'.items := by
  cases h with
  | primitive _ => rfl
  | model h => exact congrArg Items.model h.modelId
  | pending _ => rfl

theorem Part.Meets.property_eq {p q : Part} (h : p.Meets w overrides q) :
    p.property = q.property ∨ p.content.NamesAlias overrides ∨ q.content.NamesAlias overrides := by
  refine h.content.imp_left fun halike => ?_
  unfold Part.property
  rw [h.inItems, h.description, halike.text_eq, halike.items_eq]

theorem Sketch.Meets.property_eq {s t : Sketch} (h : s.Meets w overrides t) {k : String} {p q : Part}
    (hp : s.properties.get? k = some p) (hq : t.properties.get? k = some q) :
    p.property = q.property ∨ p.content.NamesAlias overrides ∨ q.content.NamesAlias overrides := by
  have hk := h.related.properties.get? k
  rw [hp, hq] at hk
  cases hk with
  | some hpq => exact hpq.property_eq

/-- Models that meet are equal if they agree where one of them refers to another name. -/
theorem Sketch.Meets.model_eq_iff {s t : Sketch} (h : s.Meets w overrides t) :
    s.model = t.model ↔ ∀ k p q, s.properties.get? k = some p → t.properties.get? k = some q →
      p.content.NamesAlias overrides ∨ q.content.NamesAlias overrides →
      p.property = q.property := by
  constructor
  · intro heq k p q hp hq _
    have hk : s.model.properties.get? k = t.model.properties.get? k := by rw [heq]
    unfold Sketch.model ModelOf.map at hk
    rw [KeyMap.get?_map, KeyMap.get?_map, hp, hq] at hk
    exact Option.some.inj hk
  · intro hagree
    have hproperties : s.properties.map Part.property = t.properties.map Part.property := by
      refine KeyMap.ext_get? fun k => ?_
      rw [KeyMap.get?_map, KeyMap.get?_map]
      have hk := h.related.properties.get? k
      cases hp : s.properties.get? k with
      | none =>
        rw [hp] at hk
        cases hq : t.properties.get? k with
        | none => rfl
        | some q =>
          rw [hq] at hk
          cases hk
      | some p =>
        rw [hp] at hk
        cases hq : t.properties.get? k with
        | none =>
          rw [hq] at hk
          cases hk
        | some q => exact congrArg some ((h.property_eq hp hq).elim (fun h => h) (hagree k p q hp hq))
    unfold Sketch.model ModelOf.map
    rw [hproperties, h.related.required]
    exact congrArg (ModelOf.mk · t.required _) h.id.modelId

/-! ### Two resolutions -/

/-- If ids are unique and no name returns, then no property refers to another name. -/
theorem Complete.no_alias {ss : List Sketch} {done : List String}
    (h : Complete w overrides w.Declares [] [] ss done) (hids : w.UniqueIds)
    (hnone : ∀ e, w.Declares e → ¬Returns w overrides e) {s : Sketch} (hs : s ∈ ss) {k : String}
    {p : Part} (hp : s.properties.get? k = some p) : ¬p.content.NamesAlias overrides := by
  rintro ⟨e, he, hrole⟩
  have hclosed := h.closed s hs k p hp
  rw [he] at hclosed
  obtain ⟨hdeclared, hip | hdone | hreturns⟩ := hclosed
  · cases hip
  · obtain ⟨t, ht, hid⟩ := ((h.mem_done _).mp hdone).resolve_left fun h => nomatch h
    refine hrole ?_
    rw [← role_congr (hids _ _ (h.holds t ht) hdeclared hid)]
    exact h.role t ht
  · exact hnone e hdeclared hreturns

/-- What is answered when a name turns out to be `outcome`. -/
def Outcome.Answers (outcome : Outcome) (model : Model) (inner : List Model) : Prop :=
  outcome.models.map Sketch.model = model :: inner ∨
    outcome.models = [] ∧ model = { id := model.id } ∧ inner = []

theorem resolveModel_ok {m : Memory} (hm : Coherent w m) {name package : String} {model : Model}
    {inner : List Model} (h : (w.resolveModel overrides name package m).1 = .ok (model, inner)) :
    ∃ outcome done, (Build.start w overrides name package m).1 = .ok outcome ∧
      outcome.Answers model inner ∧
      Complete w overrides w.Declares [] [] outcome.models done := by
  obtain ⟨root, rest, hexpand, rfl, rfl⟩ := resolveModel_models hm h
  obtain ⟨outcome, done, hstart, hrun, hroot⟩ := expand_ok hm hexpand
  refine ⟨outcome, done, hstart, ?_, hrun.complete⟩
  rcases hroot with rfl | ⟨hmodels, rfl, hroot⟩
  · exact Or.inl rfl
  · rw [hroot]
    exact Or.inr ⟨hmodels, rfl, rfl⟩

/-- **Two resolutions expand a declaration alike.**  The required names and the names of the
properties are the same, and so is each property unless one of the two refers to another name.  The
models are equal just if they agree there; they are if ids are unique and no name returns. -/
theorem resolveModel_context (w : Workspace) (overrides : Overrides)
    (history₁ history₂ : List Request) (name₁ package₁ name₂ package₂ : String)
    {model₁ model₂ : Model} {inner₁ inner₂ : List Model}
    (h₁ : (w.resolveModel overrides name₁ package₁ (w.after history₁)).1 = .ok (model₁, inner₁))
    (h₂ : (w.resolveModel overrides name₂ package₂ (w.after history₂)).1 = .ok (model₂, inner₂)) :
    ∃ outcome₁ outcome₂,
      (Build.start w overrides name₁ package₁ (w.after history₁)).1 = .ok outcome₁ ∧
      (Build.start w overrides name₂ package₂ (w.after history₂)).1 = .ok outcome₂ ∧
      outcome₁.Answers model₁ inner₁ ∧ outcome₂.Answers model₂ inner₂ ∧
      ∀ s₁ ∈ outcome₁.models, ∀ s₂ ∈ outcome₂.models, Same w s₁.id s₂.id →
        s₁.model.id = s₂.model.id ∧ s₁.model.required = s₂.model.required ∧
        (∀ k, s₁.properties.contains k = s₂.properties.contains k) ∧
        (∀ k p q, s₁.properties.get? k = some p → s₂.properties.get? k = some q →
          p.property = q.property ∨ p.content.NamesAlias overrides ∨
            q.content.NamesAlias overrides) ∧
        (s₁.model = s₂.model ↔
          ∀ k p q, s₁.properties.get? k = some p → s₂.properties.get? k = some q →
            p.content.NamesAlias overrides ∨ q.content.NamesAlias overrides →
            p.property = q.property) ∧
        (w.UniqueIds → (∀ e, w.Declares e → ¬Returns w overrides e) → s₁.model = s₂.model) := by
  obtain ⟨outcome₁, done₁, hstart₁, hanswers₁, hcomplete₁⟩ :=
    resolveModel_ok (coherent_after w history₁) h₁
  obtain ⟨outcome₂, done₂, hstart₂, hanswers₂, hcomplete₂⟩ :=
    resolveModel_ok (coherent_after w history₂) h₂
  refine ⟨outcome₁, outcome₂, hstart₁, hstart₂, hanswers₁, hanswers₂, fun s₁ hs₁ s₂ hs₂ hsame => ?_⟩
  have hmeets := (hcomplete₁.built s₁ hs₁).meets (hcomplete₂.built s₂ hs₂) hsame
  refine ⟨hsame.modelId, hmeets.related.required, hmeets.related.properties.contains,
    fun k p q hp hq => hmeets.property_eq hp hq, hmeets.model_eq_iff, fun hids hnone => ?_⟩
  refine hmeets.model_eq_iff.mpr fun k p q hp hq hnames => ?_
  rcases hnames with halias | halias
  · exact absurd halias (hcomplete₁.no_alias hids hnone hs₁ hp)
  · exact absurd halias (hcomplete₂.no_alias hids hnone hs₂ hq)

end

/-- From the other name and from the struct, the struct is expanded alike. -/
theorem resolveModel_context_shop :
    (shop.resolveModel ∅ "Basket" "shop" (shop.after [])).1 =
        .ok ((orderWith (.model basket)).model, []) ∧
      (shop.resolveModel ∅ "Order" "shop" (shop.after [])).1 =
        .ok ((orderWith (.model order)).model, []) ∧
      ∃ outcome₁ outcome₂,
        (Build.start shop ∅ "Basket" "shop" (shop.after [])).1 = .ok outcome₁ ∧
        (Build.start shop ∅ "Order" "shop" (shop.after [])).1 = .ok outcome₂ ∧
        ∀ s₁ ∈ outcome₁.models, ∀ s₂ ∈ outcome₂.models, Same shop s₁.id s₂.id →
          s₁.model.required = s₂.model.required ∧
          ∀ k, s₁.properties.contains k = s₂.properties.contains k := by
  have h₁ := (resolveModel_of_start start_basket).2
  have h₂ := (resolveModel_of_start start_order).2
  obtain ⟨outcome₁, outcome₂, hstart₁, hstart₂, -, -, hall⟩ :=
    resolveModel_context shop ∅ [] [] "Basket" "shop" "Order" "shop" h₁ h₂
  refine ⟨h₁, h₂, outcome₁, outcome₂, hstart₁, hstart₂, fun s₁ hs₁ s₂ hs₂ hsame => ?_⟩
  obtain ⟨-, hrequired, hcontains, -⟩ := hall s₁ hs₁ s₂ hs₂ hsame
  exact ⟨hrequired, hcontains⟩

/-- The struct refers to the name that was followed to it, or else to itself. -/
theorem resolveModel_differs :
    (shop.resolveModel ∅ "Basket" "shop" {}).1 = .ok ((orderWith (.model basket)).model, []) ∧
      (shop.resolveModel ∅ "Order" "shop" {}).1 = .ok ((orderWith (.model order)).model, []) ∧
      (Build.start shop ∅ "Basket" "shop" {}).1 = .ok (.built (orderWith (.model basket)) []) ∧
      (Build.start shop ∅ "Order" "shop" {}).1 = .ok (.built (orderWith (.model order)) []) ∧
      Same shop (orderWith (.model basket)).id (orderWith (.model order)).id ∧
      (orderWith (.model basket)).model ≠ (orderWith (.model order)).model := by
  refine ⟨(resolveModel_of_start start_basket).2, (resolveModel_of_start start_order).2,
    start_basket, start_order, ?_, by decide +kernel⟩
  exact same_refl shop (orderWith (.model order)).id

end ApiScribe
