import ApiScribe.Proofs.Model.History
import Mathlib.Data.List.Nodup
import Mathlib.Logic.Relation

/-!
# What the models of a resolution refer to

* `Content.Closed`, `Sketch.Closed` — nothing is left to be resolved, and only known declarations
  are referred to; `Sketch.ClosedBut` — but for some names;
* `Complete` — what a run of building adds to the ids that are complete: distinct models, none of
  them under way, which refer to each other, to what is under way, or to another name that leads
  back to itself (`Returns`);
* `resolves_complete` and its like — every run that succeeds does so.

At the start nothing is under way.  So a resolution is closed but for the names that lead back to
themselves: these go under way when they are followed, and no model is built for them.
-/

namespace ApiScribe

/-- A declaration mentions another one. -/
def Leads (w : Workspace) (overrides : Overrides) (d e : Declared) : Prop :=
  ∃ target ∈ d.decl.mentions overrides, w.found target d.package = .ok e

/-- A declaration is another name for a type. -/
def Declared.Follows (overrides : Overrides) (d : Declared) : Prop :=
  ∃ target, d.role overrides = .follows target

theorem role_congr {overrides : Overrides} {d e : Declared} (h : d.decl = e.decl) :
    d.role overrides = e.role overrides := by
  unfold Declared.role
  rw [h]

/-- Some name means the declaration. -/
def Workspace.Declares (w : Workspace) (d : Declared) : Prop :=
  ∃ name package, w.found name package = .ok d

/-- The id of a declaration is that of another name that leads to it. -/
def Returns (w : Workspace) (overrides : Overrides) (e : Declared) : Prop :=
  ∃ a : Declared, w.Declares a ∧ a.Follows overrides ∧ a.modelId = e.modelId ∧
    Relation.TransGen (Leads w overrides) a e

/-! ### Closed models -/

/-- The content is resolved, and if it is a model then one of `known`. -/
def Content.Closed (known : Declared → Prop) : Content → Prop
  | .primitive _ => True
  | .model e => known e
  | .pending _ => False

namespace Sketch

/-- All properties are resolved, and refer to none but `known` declarations. -/
def Closed (known : Declared → Prop) (s : Sketch) : Prop :=
  ∀ k p, s.properties.get? k = some p → p.content.Closed known

/-- The sketch is closed but for properties that wait for one of `names`. -/
def ClosedBut (names : List String) (known : Declared → Prop) (s : Sketch) : Prop :=
  ∀ k p, s.properties.get? k = some p →
    (∃ n ∈ names, p.content = .pending n) ∨ p.content.Closed known

end Sketch

section

variable {known known' : Declared → Prop}

theorem Content.Closed.mono {c : Content} (h : c.Closed known) (hk : ∀ e, known e → known' e) :
    c.Closed known' := by
  cases c with
  | primitive _ => exact trivial
  | model e => exact hk e h
  | pending _ => exact h

namespace Sketch

variable {s : Sketch} {names : List String}

theorem Closed.mono (h : s.Closed known) (hk : ∀ e, known e → known' e) : s.Closed known' :=
  fun k p hp => (h k p hp).mono hk

theorem closed_bare (known : Declared → Prop) (d : Declared) : Closed known { id := d } :=
  fun _ _ h => nomatch h

theorem ClosedBut.mono (h : s.ClosedBut names known) (hk : ∀ e, known e → known' e) :
    s.ClosedBut names known' := fun k p hp => (h k p hp).imp_right fun hc => hc.mono hk

theorem ClosedBut.closed (h : s.ClosedBut [] known) : s.Closed known :=
  fun k p hp => (h k p hp).resolve_left fun ⟨_, hn, _⟩ => nomatch hn

theorem ClosedBut.settle {name : String} {c : Content} (h : s.ClosedBut (name :: names) known)
    (hc : c.Closed known) : (s.settle name c).ClosedBut names known := by
  intro k p hp
  rw [get?_settle] at hp
  obtain ⟨q, hq, rfl⟩ := Option.map_eq_some_iff.mp hp
  unfold Part.settle
  split
  · exact Or.inr hc
  · rename_i hne
    rcases h k q hq with ⟨n, hn, hpending⟩ | hclosed
    · rcases List.mem_cons.mp hn with rfl | hn
      · exact absurd hpending hne
      · exact Or.inl ⟨n, hn, hpending⟩
    · exact Or.inr hclosed

theorem ClosedBut.foldl_merge {children : List Built} (h : s.ClosedBut names known)
    (hchildren : ∀ child ∈ children, child.1.Closed known) :
    (children.foldl (fun s child => s.merge child.1) s).ClosedBut names known := by
  refine List.foldlRecOn (motive := fun s : Sketch => s.ClosedBut names known) _ _ h
    fun s h child hchild k p hp => ?_
  rw [ModelOf.get?_merge] at hp
  rcases Option.or_eq_some_iff.mp hp with hp | ⟨-, hp⟩
  · exact h k p hp
  · exact Or.inr (hchildren child hchild k p hp)

theorem closedBut_ofFields (overrides : Overrides) (known : Declared → Prop) (d : Declared)
    (fields : List FieldDecl) :
    (ofFields overrides d fields).ClosedBut (ofFields overrides d fields).typeNames known := by
  intro k p hp
  obtain ⟨f, -, hpart⟩ := part_ofFields hp
  have hmodel := model?_partOf? hpart
  cases hc : p.content with
  | primitive _ => exact Or.inr trivial
  | pending n => exact Or.inl ⟨n, mem_typeNames.mpr ⟨k, p, hp, hc⟩, rfl⟩
  | model d =>
    rw [hc] at hmodel
    cases hmodel

theorem id_foldl_merge (children : List Built) (s : Sketch) :
    (children.foldl (fun s child => s.merge child.1) s).id = s.id :=
  List.foldlRecOn (motive := fun t : Sketch => t.id = s.id) _ _ rfl fun t h child _ =>
    (ModelOf.id_merge t child.1).trans h

end Sketch

end

/-! ### Complete runs -/

section

variable (w : Workspace) (overrides : Overrides) (P : Declared → Prop)

/-- A declaration with `P` that is under way or complete, or whose id returns. -/
def Known (inProgress done : List String) (e : Declared) : Prop :=
  P e ∧ (e.modelId ∈ inProgress ∨ e.modelId ∈ done ∨ Returns w overrides e)

/-- The sketch of a declaration, when no other is being merged into it. -/
def Build.Expansion (s : Sketch) : Prop :=
  ∃ trail done inner done', trail.embedding = [s.id.modelId] ∧
    Build.Expands w overrides trail s.id done (s, inner) done'

/-- The models `ss` are what `done'` has more than `done`, and refer to none but known declarations
with `P`. -/
structure Complete (inProgress done : List String) (ss : List Sketch) (done' : List String) :
    Prop where
  mem_done : ∀ id, id ∈ done' ↔ id ∈ done ∨ ∃ s ∈ ss, s.id.modelId = id
  fresh : ∀ s ∈ ss, s.id.modelId ∉ inProgress ∧ s.id.modelId ∉ done
  distinct : (ss.map fun s => s.id.modelId).Nodup
  closed : ∀ s ∈ ss, s.Closed (Known w overrides P inProgress done')
  holds : ∀ s ∈ ss, P s.id
  role : ∀ s ∈ ss, s.id.role overrides = .model
  built : ∀ s ∈ ss, Build.Expansion w overrides s

/-- What is mentioned has `P`, too. -/
def Hereditary : Prop := ∀ d e, P d → Leads w overrides d e → P e

end

section

variable {w : Workspace} {overrides : Overrides} {P : Declared → Prop}
  {inProgress done done' done'' : List String} {ss ss' : List Sketch}

theorem Build.expansion_of_expands {trail : Trail} {d : Declared} {built : Built}
    (h : Build.Expands w overrides trail d done built done')
    (htrail : trail.embedding = [d.modelId]) (hid : built.1.id = d) :
    Build.Expansion w overrides built.1 := by
  subst hid
  exact ⟨trail, done, built.2, done', htrail, h⟩

theorem Known.mono {e : Declared} (h : Known w overrides P inProgress done e)
    (hd : ∀ id ∈ done, id ∈ done') : Known w overrides P inProgress done' e :=
  ⟨h.1, h.2.imp_right fun h => h.imp_left (hd _)⟩

theorem Complete.subset (h : Complete w overrides P inProgress done ss done') :
    ∀ id ∈ done, id ∈ done' := fun id hid => (h.mem_done id).mpr (Or.inl hid)

theorem complete_nil : Complete w overrides P inProgress done [] done where
  mem_done := fun id => by simp
  fresh := fun _ h => nomatch h
  distinct := List.nodup_nil
  closed := fun _ h => nomatch h
  holds := fun _ h => nomatch h
  role := fun _ h => nomatch h
  built := fun _ h => nomatch h

theorem Complete.append (h : Complete w overrides P inProgress done ss done')
    (h' : Complete w overrides P inProgress done' ss' done'') :
    Complete w overrides P inProgress done (ss ++ ss') done'' where
  mem_done := fun id => by
    rw [h'.mem_done, h.mem_done]
    simp only [List.mem_append, or_and_right, exists_or, or_assoc]
  fresh := fun s hs => by
    rcases List.mem_append.mp hs with hs | hs
    · exact h.fresh s hs
    · exact ⟨(h'.fresh s hs).1, fun hd => (h'.fresh s hs).2 (h.subset _ hd)⟩
  distinct := by
    rw [List.map_append, List.nodup_append]
    refine ⟨h.distinct, h'.distinct, ?_⟩
    rintro id hid _ hid' rfl
    obtain ⟨s, hs, hsid⟩ := List.mem_map.mp hid
    obtain ⟨s', hs', hsid'⟩ := List.mem_map.mp hid'
    refine (h'.fresh s' hs').2 ((h.mem_done _).mpr (Or.inr ⟨s, hs, ?_⟩))
    rw [hsid, hsid']
  closed := fun s hs => by
    rcases List.mem_append.mp hs with hs | hs
    · exact (h.closed s hs).mono fun e he => he.mono h'.subset
    · exact h'.closed s hs
  holds := fun s hs => (List.mem_append.mp hs).elim (h.holds s) (h'.holds s)
  role := fun s hs => (List.mem_append.mp hs).elim (h.role s) (h'.role s)
  built := fun s hs => (List.mem_append.mp hs).elim (h.built s) (h'.built s)

theorem Complete.build {d : Declared} {model : Sketch}
    (h : Complete w overrides P (d.modelId :: inProgress) done ss done')
    (hnew : ¬(d.modelId ∈ inProgress ∨ d.modelId ∈ done)) (hid : model.id = d) (hd : P d)
    (hrole : d.role overrides = .model) (hbuilt : Build.Expansion w overrides model)
    (hmodel : model.Closed (Known w overrides P (d.modelId :: inProgress) done')) :
    Complete w overrides P inProgress done (model :: ss) (d.modelId :: done') := by
  have hknown : ∀ e, Known w overrides P (d.modelId :: inProgress) done' e →
      Known w overrides P inProgress (d.modelId :: done') e := by
    rintro e ⟨hP, he | he | he⟩
    · rcases List.mem_cons.mp he with he | he
      · exact ⟨hP, Or.inr (Or.inl (he ▸ List.mem_cons_self))⟩
      · exact ⟨hP, Or.inl he⟩
    · exact ⟨hP, Or.inr (Or.inl (List.mem_cons_of_mem _ he))⟩
    · exact ⟨hP, Or.inr (Or.inr he)⟩
  constructor
  · intro id
    rw [List.mem_cons, h.mem_done, List.exists_mem_cons_iff, hid]
    constructor
    · rintro (rfl | h | h)
      · exact Or.inr (Or.inl rfl)
      · exact Or.inl h
      · exact Or.inr (Or.inr h)
    · rintro (h | rfl | h)
      · exact Or.inr (Or.inl h)
      · exact Or.inl rfl
      · exact Or.inr (Or.inr h)
  · intro s hs
    rcases List.mem_cons.mp hs with rfl | hs
    · rw [hid]
      exact ⟨fun h => hnew (Or.inl h), fun h => hnew (Or.inr h)⟩
    · exact ⟨fun hi => (h.fresh s hs).1 (List.mem_cons_of_mem _ hi), (h.fresh s hs).2⟩
  · rw [List.map_cons, List.nodup_cons, hid]
    refine ⟨fun hmem => ?_, h.distinct⟩
    obtain ⟨s, hs, hsid⟩ := List.mem_map.mp hmem
    exact (h.fresh s hs).1 (hsid ▸ List.mem_cons_self)
  · intro s hs
    rcases List.mem_cons.mp hs with rfl | hs
    · exact hmodel.mono hknown
    · exact (h.closed s hs).mono hknown
  · intro s hs
    rcases List.mem_cons.mp hs with rfl | hs
    · rw [hid]
      exact hd
    · exact h.holds s hs
  · intro s hs
    rcases List.mem_cons.mp hs with rfl | hs
    · rw [hid]
      exact hrole
    · exact h.role s hs
  · intro s hs
    rcases List.mem_cons.mp hs with rfl | hs
    · exact hbuilt
    · exact h.built s hs

/-- When another name has been followed, its id returns where it is still referred to. -/
theorem Known.follow {d e : Declared} (hd : w.Declares d) (hrole : d.Follows overrides)
    (h : Known w overrides (fun e => P e ∧ Relation.TransGen (Leads w overrides) d e)
      (d.modelId :: inProgress) done e) : Known w overrides P inProgress done e := by
  obtain ⟨⟨hP, hleads⟩, h | h⟩ := h
  · rcases List.mem_cons.mp h with h | h
    · exact ⟨hP, Or.inr (Or.inr ⟨d, hd, hrole, h.symm, hleads⟩)⟩
    · exact ⟨hP, Or.inl h⟩
  · exact ⟨hP, Or.inr h⟩

theorem Complete.follow {d : Declared} (hd : w.Declares d) (hrole : d.Follows overrides)
    (h : Complete w overrides (fun e => P e ∧ Relation.TransGen (Leads w overrides) d e)
      (d.modelId :: inProgress) done ss done') :
    Complete w overrides P inProgress done ss done' where
  mem_done := h.mem_done
  fresh := fun s hs =>
    ⟨fun hi => (h.fresh s hs).1 (List.mem_cons_of_mem _ hi), (h.fresh s hs).2⟩
  distinct := h.distinct
  closed := fun s hs => (h.closed s hs).mono fun _ he => he.follow hd hrole
  holds := fun s hs => (h.holds s hs).1
  role := h.role
  built := h.built

theorem Hereditary.transGen (h : Hereditary w overrides P) (d : Declared) :
    Hereditary w overrides fun e => P e ∧ Relation.TransGen (Leads w overrides) d e :=
  fun e e' he hlead => ⟨h e e' he.1 hlead, he.2.tail hlead⟩

end

/-! ### Every run is complete -/

namespace Build

variable {w : Workspace} {overrides : Overrides}

mutual

theorem resolves_complete : ∀ {trail name package done outcome done'},
    Resolves w overrides trail name package done outcome done' → ∀ P : Declared → Prop,
    Hereditary w overrides P → (∀ d, w.found name package = .ok d → P d) →
    Complete w overrides P trail.inProgress done outcome.models done' ∧
      outcome.content.Closed (Known w overrides P trail.inProgress done')
  | _, _, _, _, _, _, .primitive _, _, _, _ => ⟨complete_nil, trivial⟩
  | _, _, _, _, _, _, .known _ hfound hknown, _, _, hP =>
    ⟨complete_nil, hP _ hfound, hknown.imp_right Or.inl⟩
  | _, _, _, _, _, _, .synonym _ _ _ _, _, _, _ => ⟨complete_nil, trivial⟩
  | _, _, _, _, _, _, .follow _ hfound _ hrole hrest, P, hher, hP => by
    have hd := hP _ hfound
    have hfollows : Declared.Follows overrides _ := ⟨_, hrole⟩
    obtain ⟨hcomplete, hcontent⟩ := resolves_complete hrest _ (hher.transGen _) fun e he =>
      have hlead : Leads w overrides _ e := ⟨_, mentions_of_follows hrole, he⟩
      ⟨hher _ _ hd hlead, .single hlead⟩
    have hdeclared : w.Declares _ := ⟨_, _, hfound⟩
    exact ⟨hcomplete.follow hdeclared hfollows,
      hcontent.mono fun _ he => he.follow hdeclared hfollows⟩
  | _, _, _, _, _, _, .build _ hfound hnew hrole hmodel, P, hher, hP => by
    obtain ⟨hid, hclosed, hcomplete⟩ := expands_complete hmodel P hher (hP _ hfound)
    have hbuilt := expansion_of_expands hmodel rfl hid
    refine ⟨hcomplete.build hnew hid (hP _ hfound) hrole hbuilt hclosed, ?_⟩
    show Known w overrides P _ _ _
    rw [hid]
    exact ⟨hP _ hfound, Or.inr (Or.inl List.mem_cons_self)⟩

theorem expands_complete : ∀ {trail d done built done'},
    Expands w overrides trail d done built done' → ∀ P : Declared → Prop,
    Hereditary w overrides P → P d →
    built.1.id = d ∧ built.1.Closed (Known w overrides P trail.inProgress done') ∧
      Complete w overrides P trail.inProgress done built.2 done'
  | _, d, _, _, _, .struct hkind hembedded hsettled, P, hher, hd => by
    obtain ⟨hchildren, hcomplete⟩ := embedsAll_complete hembedded P hher
      fun f hf name hname e he => hher _ _ hd ⟨name, mentions_of_embedded hkind hf hname, he⟩
    obtain ⟨hid, hclosed, new, hnew, hcomplete'⟩ := settlesAll_complete hsettled P hher
      (fun name hname e he => hher _ _ hd ⟨name, mentions_of_typeName hkind hname, he⟩)
      ((Sketch.closedBut_ofFields _ _ _ _).foldl_merge hchildren)
    refine ⟨?_, hclosed, ?_⟩
    · rw [hid, Sketch.id_foldl_merge, Sketch.id_ofFields]
    · rw [hnew]
      exact hcomplete.append hcomplete'
  | _, _, _, _, _, .bare _, _, _, _ => ⟨rfl, Sketch.closed_bare _ _, complete_nil⟩

theorem embedsAll_complete : ∀ {trail package fields done embedded done'},
    EmbedsAll w overrides trail package fields done embedded done' → ∀ P : Declared → Prop,
    Hereditary w overrides P →
    (∀ f ∈ fields, ∀ name, f.embedded? overrides = some name →
      ∀ d, w.found name package = .ok d → P d) →
    (∀ child ∈ embedded, child.1.Closed (Known w overrides P trail.inProgress done')) ∧
      Complete w overrides P trail.inProgress done (embedded.flatMap Prod.snd) done'
  | _, _, _, _, _, _, .nil, _, _, _ => ⟨(fun _ h => nomatch h), complete_nil⟩
  | _, _, _, _, _, _, .skip _ hrest, P, hher, hP =>
    embedsAll_complete hrest P hher fun f hf => hP f (List.mem_cons_of_mem _ hf)
  | _, _, _, _, _, _, .field hfield hfirst hrest, P, hher, hP => by
    obtain ⟨hfound, hcomplete⟩ := embeds_complete hfirst P hher (hP _ List.mem_cons_self _ hfield)
    obtain ⟨hothers, hcomplete'⟩ := embedsAll_complete hrest P hher fun f hf =>
      hP f (List.mem_cons_of_mem _ hf)
    refine ⟨fun child hchild => ?_, ?_⟩
    · rcases List.mem_append.mp hchild with hchild | hchild
      · exact (hfound child hchild).mono fun _ he => he.mono hcomplete'.subset
      · exact hothers child hchild
    · rw [List.flatMap_append]
      exact hcomplete.append hcomplete'

theorem embeds_complete : ∀ {trail name package done found done'},
    Embeds w overrides trail name package done found done' → ∀ P : Declared → Prop,
    Hereditary w overrides P → (∀ d, w.found name package = .ok d → P d) →
    (∀ child ∈ found.toList, child.1.Closed (Known w overrides P trail.inProgress done')) ∧
      Complete w overrides P trail.inProgress done (found.toList.flatMap Prod.snd) done'
  | _, _, _, _, _, _, .known _ _, _, _, _ => ⟨(fun _ h => nomatch h), complete_nil⟩
  | _, _, _, _, _, _, .follow hfound _ hrole hrest, P, hher, hP =>
    embeds_complete hrest P hher fun _ he =>
      hher _ _ (hP _ hfound) ⟨_, mentions_of_follows hrole, he⟩
  | _, _, _, _, _, _, .synonym _ _ _ _, _, _, _ => ⟨(fun _ h => nomatch h), complete_nil⟩
  | _, _, _, _, _, _, .expand hfound _ _ hmodel, P, hher, hP => by
    obtain ⟨-, hclosed, hcomplete⟩ := expands_complete hmodel P hher (hP _ hfound)
    refine ⟨fun child hchild => ?_, ?_⟩
    · rw [List.mem_singleton.mp hchild]
      exact hclosed
    · rw [Option.toList_some, List.flatMap_singleton]
      exact hcomplete

theorem settlesAll_complete : ∀ {trail package names built done built' done'},
    SettlesAll w overrides trail package names built done built' done' → ∀ P : Declared → Prop,
    Hereditary w overrides P → (∀ name ∈ names, ∀ d, w.found name package = .ok d → P d) →
    built.1.ClosedBut names (Known w overrides P trail.inProgress done) →
    built'.1.id = built.1.id ∧ built'.1.Closed (Known w overrides P trail.inProgress done') ∧
      ∃ new, built'.2 = built.2 ++ new ∧ Complete w overrides P trail.inProgress done new done'
  | _, _, _, _, _, _, _, .nil, _, _, _, hbuilt =>
    ⟨rfl, hbuilt.closed, [], (List.append_nil _).symm, complete_nil⟩
  | _, _, _, _, _, _, _, .cons hfirst hrest, P, hher, hP, hbuilt => by
    obtain ⟨hcomplete, hcontent⟩ := resolves_complete hfirst P hher (hP _ List.mem_cons_self)
    have hkept := hbuilt.mono fun _ he => he.mono hcomplete.subset
    obtain ⟨hid, hclosed, new, hnew, hcomplete'⟩ := settlesAll_complete hrest P hher
      (fun name hname => hP name (List.mem_cons_of_mem _ hname))
      (hkept.settle hcontent)
    exact ⟨hid, hclosed, _, by rw [hnew, List.append_assoc], hcomplete.append hcomplete'⟩

end

/-- A run that builds the model of a declaration builds no other one. -/
theorem Expands.id_eq {w : Workspace} {overrides : Overrides} {trail : Trail} {d : Declared}
    {done : List String} {built : Built} {done' : List String}
    (h : Expands w overrides trail d done built done') : built.1.id = d :=
  (expands_complete h (fun _ => True) (fun _ _ _ _ => trivial) trivial).1

end Build

/-! ### Resolutions -/

variable {w : Workspace} {overrides : Overrides}

theorem Model.dedup_of_nodup {ms : List Model} (h : (ms.map (·.id)).Nodup) : dedup ms = ms := by
  have key : ∀ (ms : List Model) (seen : List String), (ms.map (·.id)).Nodup →
      (∀ m ∈ ms, m.id ∉ seen) → dedupFrom seen ms = ms := by
    intro ms
    induction ms with
    | nil => exact fun _ _ _ => rfl
    | cons m ms ih =>
      intro seen h hseen
      obtain ⟨hm, hms⟩ := List.nodup_cons.mp h
      rw [dedupFrom, if_neg (hseen m List.mem_cons_self), ih _ hms]
      intro n hn hmem
      rcases List.mem_cons.mp hmem with hid | hmem
      · exact hm (List.mem_map.mpr ⟨n, hn, hid⟩)
      · exact hseen n (List.mem_cons_of_mem _ hn) hmem
  exact key ms [] h fun _ _ h => nomatch h

/-- An expansion is a run that builds a model, or stands for a declaration without properties. -/
theorem expand_ok {m : Memory} (hm : Coherent w m) {name package : String} {root : Sketch}
    {rest : List Sketch} (h : (w.expand overrides name package m).1 = .ok (root, rest)) :
    ∃ outcome done, (Build.start w overrides name package m).1 = .ok outcome ∧
      Build.Resolves w overrides {} name package [] outcome done ∧
      (outcome = .built root rest ∨
        outcome.models = [] ∧ rest = [] ∧ root = { id := root.id }) := by
  have hanswer : ∀ {r}, Gives (Coherent w) (w.expand overrides name package) r →
      r = .ok (root, rest) := fun hr => (hr m hm).1.symm.trans h
  rcases Build.start_decided w overrides name package with
    ⟨outcome, done, hrun, hstart⟩ | ⟨e, -, he⟩
  · refine ⟨outcome, done, (hstart m hm).1, hrun, ?_⟩
    rcases outcome with ⟨_, _ | d⟩ | d | ⟨model, inner⟩
    · cases hanswer (hstart.ok_bind (gives_throw _))
    · cases hanswer (hstart.ok_bind (gives_pure _))
      exact Or.inr ⟨rfl, rfl, rfl⟩
    · cases hanswer (hstart.ok_bind (gives_pure _))
      exact Or.inr ⟨rfl, rfl, rfl⟩
    · cases hanswer (hstart.ok_bind (gives_pure _))
      exact Or.inl rfl
  · cases hanswer he.error_bind

/-- The declaration that an outcome comes from, if it does not come from a primitive itself. -/
def Outcome.source? : Outcome → Option Declared
  | primitive _ source => source
  | reference d => some d
  | built model _ => some model.id

theorem declares_source : ∀ {trail name package done outcome done'},
    Build.Resolves w overrides trail name package done outcome done' →
    ∀ d, outcome.source? = some d → w.Declares d
  | _, _, _, _, _, _, .primitive _, _, hd => nomatch hd
  | _, _, _, _, _, _, .known _ hfound _, _, hd => ⟨_, _, Option.some.inj hd ▸ hfound⟩
  | _, _, _, _, _, _, .synonym _ hfound _ _, _, hd => ⟨_, _, Option.some.inj hd ▸ hfound⟩
  | _, _, _, _, _, _, .follow _ _ _ _ hrest, d, hd => declares_source hrest d hd
  | _, _, _, _, _, _, .build _ hfound _ _ hmodel, _, hd => by
    rw [← Option.some.inj hd, hmodel.id_eq]
    exact ⟨_, _, hfound⟩

/-- An expansion begins with the model of the declaration that its run comes from. -/
theorem expand_source {m : Memory} {name package : String} {root : Sketch} {rest : List Sketch}
    (h : (w.expand overrides name package m).1 = .ok (root, rest)) :
    ∃ outcome, (Build.start w overrides name package m).1 = .ok outcome ∧
      outcome.source? = some root.id := by
  unfold Workspace.expand at h
  rw [session_bind] at h
  generalize Build.start w overrides name package m = y at h ⊢
  obtain ⟨_ | outcome, m'⟩ := y
  · cases h
  · refine ⟨outcome, rfl, ?_⟩
    rcases outcome with ⟨_, _ | d⟩ | d | ⟨model, inner⟩
    · cases h
    · cases h
      rfl
    · cases h
      rfl
    · cases h
      rfl

theorem resolveModel_eq (m : Memory) (name package : String) :
    (w.resolveModel overrides name package m).1 =
      (w.expand overrides name package m).1.map fun built =>
        (built.1.model, Model.dedup (built.2.map Sketch.model)) := by
  have h : w.resolveModel overrides name package m =
      (w.expand overrides name package >>= fun built =>
        pure (built.1.model, Model.dedup (built.2.map Sketch.model)) :
          Session (Model × List Model)) m := rfl
  rw [h, session_bind]
  generalize w.expand overrides name package m = y
  obtain ⟨r, m'⟩ := y
  cases r <;> rfl

def Refers (ss : List Sketch) (e : Declared) : Prop :=
  ∃ s ∈ ss, ∃ k p, s.properties.get? k = some p ∧ p.content = .model e

/-- A declaration has the id of one of some models. -/
def Listed (models : List Model) (e : Declared) : Prop := ∃ m ∈ models, m.id = e.modelId

/-- No two types that can be found share an id. -/
def Workspace.UniqueIds (w : Workspace) : Prop :=
  ∀ d e, w.Declares d → w.Declares e → d.modelId = e.modelId → d.decl = e.decl

theorem declares_hereditary (w : Workspace) (overrides : Overrides) :
    Hereditary w overrides w.Declares := fun _ _ _ ⟨target, _, he⟩ => ⟨target, _, he⟩

theorem Build.Resolves.complete {name package : String} {outcome : Outcome} {done : List String}
    (h : Build.Resolves w overrides {} name package [] outcome done) :
    Complete w overrides w.Declares [] [] outcome.models done :=
  (Build.resolves_complete h w.Declares (declares_hereditary w overrides)
    fun _ hd => ⟨name, package, hd⟩).1

theorem expand_complete {m : Memory} (hm : Coherent w m) {name package : String} {root : Sketch}
    {rest : List Sketch} (h : (w.expand overrides name package m).1 = .ok (root, rest)) :
    (∃ done, Complete w overrides w.Declares [] [] (root :: rest) done) ∨
      rest = [] ∧ root = { id := root.id } := by
  obtain ⟨outcome, done, -, hrun, rfl | ⟨-, hbare⟩⟩ := expand_ok hm h
  · exact Or.inl ⟨done, hrun.complete⟩
  · exact Or.inr hbare

theorem expand_distinct {m : Memory} (hm : Coherent w m) {name package : String} {root : Sketch}
    {rest : List Sketch} (h : (w.expand overrides name package m).1 = .ok (root, rest)) :
    ((root :: rest).map fun s => s.id.modelId).Nodup := by
  rcases expand_complete hm h with ⟨done, hcomplete⟩ | ⟨rfl, -⟩
  · exact hcomplete.distinct
  · exact List.nodup_singleton _

/-- A resolution answers the models of an expansion, and leaves none of them out. -/
theorem resolveModel_models {m : Memory} (hm : Coherent w m) {name package : String} {model : Model}
    {inner : List Model} (h : (w.resolveModel overrides name package m).1 = .ok (model, inner)) :
    ∃ root rest, (w.expand overrides name package m).1 = .ok (root, rest) ∧ model = root.model ∧
      inner = rest.map Sketch.model := by
  rw [resolveModel_eq] at h
  obtain ⟨⟨root, rest⟩, hexpand, h⟩ := except_map_ok.mp h
  have hrest : ((rest.map Sketch.model).map (·.id)).Nodup := by
    rw [List.map_map]
    exact (List.nodup_cons.mp (expand_distinct hm hexpand)).2
  rw [Model.dedup_of_nodup hrest] at h
  cases h
  exact ⟨root, rest, hexpand, rfl, rfl⟩

/-- The properties of an expansion are resolved, and refer to its models or to names that return. -/
theorem expand_closed {m : Memory} (hm : Coherent w m) {name package : String} {root : Sketch}
    {rest : List Sketch} (h : (w.expand overrides name package m).1 = .ok (root, rest)) :
    ∀ s ∈ root :: rest, s.Closed fun e => w.Declares e ∧
      (Listed ((root :: rest).map Sketch.model) e ∨ Returns w overrides e) := by
  rcases expand_complete hm h with ⟨done, hcomplete⟩ | ⟨rfl, hroot⟩
  · intro s hs
    refine (hcomplete.closed s hs).mono ?_
    rintro e ⟨hdeclared, hip | hdone | hreturns⟩
    · cases hip
    · obtain ⟨t, ht, hid⟩ := ((hcomplete.mem_done _).mp hdone).resolve_left fun h => nomatch h
      exact ⟨hdeclared, Or.inl ⟨t.model, List.mem_map_of_mem ht, hid⟩⟩
    · exact ⟨hdeclared, Or.inr hreturns⟩
  · intro s hs
    rw [List.mem_singleton.mp hs, hroot]
    exact Sketch.closed_bare _ _

/-- The models that have properties are those of declarations that are no other names. -/
theorem expand_role {m : Memory} (hm : Coherent w m) {name package : String} {root : Sketch}
    {rest : List Sketch} (h : (w.expand overrides name package m).1 = .ok (root, rest)) {e : Declared}
    (he : Refers (root :: rest) e) :
    ∀ s ∈ root :: rest, w.Declares s.id ∧ s.id.role overrides = .model := by
  rcases expand_complete hm h with ⟨done, hcomplete⟩ | ⟨rfl, hroot⟩
  · exact fun s hs => ⟨hcomplete.holds s hs, hcomplete.role s hs⟩
  · obtain ⟨s, hs, k, p, hp, -⟩ := he
    rw [List.mem_singleton.mp hs, hroot] at hp
    cases hp

/-- **What a resolved model refers to is listed, or is another name that leads back to itself.**
No property is left unresolved.  The resolution is closed just if every reference to a name that
returns is listed; if ids are unique, just if no property refers to another name. -/
theorem resolveModel_references (w : Workspace) (overrides : Overrides) (history : List Request)
    (name package : String) {model : Model} {inner : List Model}
    (h : (w.resolveModel overrides name package (w.after history)).1 = .ok (model, inner)) :
    ∃ root rest, (w.expand overrides name package (w.after history)).1 = .ok (root, rest) ∧
      model :: inner = (root :: rest).map Sketch.model ∧
      (∀ s ∈ root :: rest, ∀ k p, s.properties.get? k = some p → p.content.pending? = none) ∧
      (∀ e, Refers (root :: rest) e → Listed (model :: inner) e ∨ Returns w overrides e) ∧
      ((∀ e, Refers (root :: rest) e → Listed (model :: inner) e) ↔
        ∀ e, Refers (root :: rest) e → Returns w overrides e → Listed (model :: inner) e) ∧
      (w.UniqueIds → ((∀ e, Refers (root :: rest) e → Listed (model :: inner) e) ↔
        ∀ e, Refers (root :: rest) e → ¬ e.Follows overrides)) := by
  have hm := coherent_after w history
  obtain ⟨root, rest, hexpand, rfl, rfl⟩ := resolveModel_models hm h
  have hclosed := expand_closed hm hexpand
  have hrefers : ∀ e, Refers (root :: rest) e → w.Declares e ∧
      (Listed ((root :: rest).map Sketch.model) e ∨ Returns w overrides e) := by
    rintro e ⟨s, hs, k, p, hp, hpe⟩
    have hknown := hclosed s hs k p hp
    rw [hpe] at hknown
    exact hknown
  refine ⟨root, rest, hexpand, rfl, fun s hs k p hp => ?_, fun e he => (hrefers e he).2, ?_, ?_⟩
  · have hknown := hclosed s hs k p hp
    cases hc : p.content with
    | primitive _ => rfl
    | model _ => rfl
    | pending _ =>
      rw [hc] at hknown
      exact hknown.elim
  · exact ⟨fun hall e he _ => hall e he, fun hall e he => (hrefers e he).2.elim id (hall e he)⟩
  · intro hids
    constructor
    · rintro hall e he ⟨target, hrole⟩
      obtain ⟨m, hmem, hid⟩ := hall e he
      obtain ⟨s, hs, rfl⟩ := List.mem_map.mp (show m ∈ (root :: rest).map Sketch.model from hmem)
      obtain ⟨hdeclared, hmodel⟩ := expand_role hm hexpand he s hs
      have hdecl := hids _ _ hdeclared (hrefers e he).1 hid
      rw [role_congr hdecl, hrole] at hmodel
      cases hmodel
    · intro hall e he
      refine (hrefers e he).2.resolve_right ?_
      rintro ⟨a, hdeclared, ⟨target, hrole⟩, hid, -⟩
      refine hall e he ⟨target, ?_⟩
      rw [← role_congr (hids _ _ hdeclared (hrefers e he).1 hid), hrole]

/-! ### A name that leads back to itself -/

/-- A model that is built is what is expanded and resolved. -/
theorem resolveModel_of_start {m : Memory} {name package : String} {root : Sketch}
    {rest : List Sketch}
    (h : (Build.start w overrides name package m).1 = .ok (.built root rest)) :
    (w.expand overrides name package m).1 = .ok (root, rest) ∧
      (w.resolveModel overrides name package m).1 =
        .ok (root.model, Model.dedup (rest.map Sketch.model)) := by
  have hexpand : (w.expand overrides name package m).1 = .ok (root, rest) := by
    unfold Workspace.expand
    rw [session_bind]
    generalize Build.start w overrides name package m = y at h ⊢
    obtain ⟨r, m'⟩ := y
    cases h
    rfl
  rw [resolveModel_eq, hexpand]
  exact ⟨rfl, rfl⟩

/-- A package in which a struct refers to itself under another name. -/
def shop : Workspace where
  search := { roots := ["/"] }
  files := { root := .dir [("src", .dir [("shop", .dir [("shop.go", .text
    "package shop\n\ntype Basket = Order\n\ntype Order struct \x7b\n\tParent *Basket\n\x7d\n")])])] }

def basket : Declared where
  decl := { name := "Basket", kind := .synonym (.named none "Order") }
  package := "shop"

def orderFields : List FieldDecl := [{ name := some "Parent", type := .named none "Basket" }]

def order : Declared where
  decl := { name := "Order", kind := .struct orderFields }
  package := "shop"

/-- The sketch of the struct, when its field holds the given content. -/
def orderWith (c : Content) : Sketch := (Sketch.ofFields ∅ order orderFields).settle "Basket" c

/-- From the other name, the field refers to the name that is being followed. -/
theorem start_basket :
    (Build.start shop ∅ "Basket" "shop" {}).1 = .ok (.built (orderWith (.model basket)) []) :=
  except_of_toOption (by decide +kernel)

/-- From the struct, the field refers to the struct. -/
theorem start_order :
    (Build.start shop ∅ "Order" "shop" {}).1 = .ok (.built (orderWith (.model order)) []) :=
  except_of_toOption (by decide +kernel)

/-- The model of the struct refers to itself, and is listed. -/
theorem resolveModel_references_order :
    (shop.resolveModel ∅ "Order" "shop" (shop.after [])).1 =
        .ok ((orderWith (.model order)).model, []) ∧
      ∃ root rest, (shop.expand ∅ "Order" "shop" (shop.after [])).1 = .ok (root, rest) ∧
        ∀ e, Refers (root :: rest) e →
          Listed [(orderWith (.model order)).model] e ∨ Returns shop ∅ e := by
  have h := (resolveModel_of_start start_order).2
  obtain ⟨root, rest, hexpand, -, -, hlisted, -⟩ :=
    resolveModel_references shop ∅ [] "Order" "shop" h
  exact ⟨h, root, rest, hexpand, hlisted⟩

/-- The model that the other name stands for refers to an id that is not listed. -/
theorem resolveModel_basket_not_closed :
    (shop.resolveModel ∅ "Basket" "shop" {}).1 = .ok ((orderWith (.model basket)).model, []) ∧
      (shop.expand ∅ "Basket" "shop" {}).1 = .ok (orderWith (.model basket), []) ∧
      (orderWith (.model basket)).model.properties.get? "Parent" =
        some { type := "shop.Basket" } ∧
      Refers [orderWith (.model basket)] basket ∧
      ¬Listed [(orderWith (.model basket)).model] basket := by
  obtain ⟨hexpand, hresolve⟩ := resolveModel_of_start start_basket
  refine ⟨hresolve, hexpand, by decide +kernel, ?_, ?_⟩
  · exact ⟨_, List.mem_singleton_self _, "Parent", { content := .model basket }, by decide +kernel,
      rfl⟩
  · rintro ⟨m, hm, hid⟩
    rw [List.mem_singleton.mp hm] at hid
    exact absurd hid (by decide +kernel)

end ApiScribe
