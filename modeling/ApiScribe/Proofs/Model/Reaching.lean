import ApiScribe.Proofs.Model.Flattening

/-!
# Why a model is listed

A run that builds a model also builds the models that its references need, and those of all that is
embedded in it.  It leaves a flattening of each, and a way to it from the first.

* `Flattening.Stands` — a property of a struct, or of one embedded in it, whether shadowed or not;
* `Flattening.Reached` — some flattenings are reached from others, each from one in which a property
  refers to it;
* `of_expands`, `Build.Expansion.flattening` — what a run that builds a model leaves;
* `resolveModel_reaches` — each inner model is reached from the resolved one.  What leads to it can be
  a property that is shadowed, and then nothing in the result may refer to it.
-/

namespace ApiScribe

namespace Flattening

/-- A property of the struct, or of a struct that is embedded in it, whether shadowed or not. -/
inductive Stands (k : String) (p : Part) : Flattening → Prop
  | own {s fields ts} (h : s.properties.get? k = some p) : Stands k p (node s fields ts)
  | embedded {s fields ts t} (ht : t ∈ ts) (h : Stands k p t) : Stands k p (node s fields ts)

/-- A property that stands in a struct refers to a declaration. -/
def Cites (t : Flattening) (e : Declared) : Prop := ∃ k p, Stands k p t ∧ p.content = .model e

/-- A flattening cites the declaration of another, which is one of `us`. -/
def LeadsTo (us : List Flattening) (t u : Flattening) : Prop := u ∈ us ∧ t.Cites u.sketch.id

section

variable (w : Workspace) (overrides : Overrides)

/-- Each of `us` stands alone as a flattening of its declaration, and there is a way to it through
`us` from one of `ts`. -/
def Reached (ts us : List Flattening) : Prop :=
  ∀ u ∈ us, Of w overrides [u.sketch.id.modelId] u.sketch.id u ∧
    ∃ t ∈ ts, Relation.TransGen (LeadsTo us) t u

/-- A model has a flattening, from which those of the models that are built with it are reached. -/
def Traced (chain : List String) (d : Declared) (built : Built) : Prop :=
  ∃ t us, Of w overrides chain d t ∧ t.sketch = built.1 ∧ us.map sketch = built.2 ∧
    Reached w overrides [t] us

end

section

variable {w : Workspace} {overrides : Overrides} {t u : Flattening} {ts ts' us vs : List Flattening}

theorem Cites.embedded {s : Sketch} {fields : List FieldDecl} {e : Declared} (ht : t ∈ ts)
    (h : t.Cites e) : (node s fields ts).Cites e := by
  obtain ⟨k, p, hp, hc⟩ := h
  exact ⟨k, p, .embedded ht hp, hc⟩

theorem way_mono (hsub : us ⊆ vs) (h : Relation.TransGen (LeadsTo us) t u) :
    Relation.TransGen (LeadsTo vs) t u :=
  Relation.TransGen.mono (fun _ _ hleads => ⟨hsub hleads.1, hleads.2⟩) _ _ h

theorem mem_of_transGen (h : Relation.TransGen (LeadsTo us) t u) : u ∈ us := by
  cases h with
  | single h => exact h.1
  | tail _ h => exact h.1

theorem reached_nil : Reached w overrides ts [] :=
  fun _ hu => absurd hu List.not_mem_nil

theorem Reached.append (h : Reached w overrides ts us) (h' : Reached w overrides ts vs) :
    Reached w overrides ts (us ++ vs) := by
  intro u hu
  rcases List.mem_append.mp hu with hu | hu
  · obtain ⟨hof, t, ht, hway⟩ := h u hu
    exact ⟨hof, t, ht, way_mono (List.subset_append_left us vs) hway⟩
  · obtain ⟨hof, t, ht, hway⟩ := h' u hu
    exact ⟨hof, t, ht, way_mono (List.subset_append_right us vs) hway⟩

theorem Reached.start (h : Reached w overrides ts us)
    (hts : ∀ t ∈ ts, ∃ t' ∈ ts', ∀ e, t.Cites e → t'.Cites e) : Reached w overrides ts' us := by
  intro u hu
  obtain ⟨hof, t, ht, hway⟩ := h u hu
  obtain ⟨t', ht', hcites⟩ := hts t ht
  obtain ⟨v, ⟨hv, hfirst⟩, hrest⟩ := Relation.TransGen.head'_iff.mp hway
  exact ⟨hof, t', ht', Relation.TransGen.head'_iff.mpr ⟨v, ⟨hv, hcites _ hfirst⟩, hrest⟩⟩

/-- What a new model brings is reached from what cites the model. -/
theorem Reached.cons (h : Reached w overrides [u] us)
    (hof : Of w overrides [u.sketch.id.modelId] u.sketch.id u) (hcites : t.Cites u.sketch.id) :
    Reached w overrides [t] (u :: us) := by
  have hfirst : LeadsTo (u :: us) t u := ⟨List.mem_cons_self, hcites⟩
  intro v hv
  rcases List.mem_cons.mp hv with rfl | hv
  · exact ⟨hof, t, List.mem_singleton_self t, .single hfirst⟩
  · obtain ⟨hof', u', hu', hway⟩ := h v hv
    rw [List.mem_singleton.mp hu'] at hway
    exact ⟨hof', t, List.mem_singleton_self t,
      .head hfirst (way_mono (List.subset_cons_self u us) hway)⟩

theorem exists_reached {outcome : Outcome}
    (h : ∀ root rest, outcome = .built root rest →
      Traced w overrides [root.id.modelId] root.id (root, rest)) :
    ∃ us, us.map sketch = outcome.models ∧
      ∀ t : Flattening, (∀ e, outcome.content = .model e → t.Cites e) →
        Reached w overrides [t] us := by
  cases outcome with
  | primitive _ _ => exact ⟨[], rfl, fun _ _ => reached_nil⟩
  | reference _ => exact ⟨[], rfl, fun _ _ => reached_nil⟩
  | built root rest =>
    obtain ⟨u, us, hof, rfl, rfl, hreached⟩ := h root rest rfl
    exact ⟨u :: us, rfl, fun t ht => hreached.cons hof (ht _ rfl)⟩

/-! ### Every run leaves a flattening -/

/-- What is put in for a name stays, and other names stay to be settled. -/
theorem content_settle (name : String) (c : Content) {n : String} {s : Sketch} {k : String} {p : Part}
    (hp : s.properties.get? k = some p) (hpending : p.content = .pending n) :
    ∃ q, (s.settle name c).properties.get? k = some q ∧
      q.content = if n = name then c else .pending n := by
  rw [Sketch.get?_settle, hp]
  refine ⟨_, rfl, ?_⟩
  unfold Part.settle
  by_cases hn : n = name
  · rw [if_pos (hn ▸ hpending), if_pos hn]
  · have hother : p.content ≠ .pending name := fun h => hn (Content.pending.inj (hpending ▸ h))
    rw [if_neg hother, if_neg hn, hpending]

mutual

/-- **A run that builds a model leaves a flattening of its declaration**, from which the models that
are built with it are reached. -/
theorem of_expands : ∀ {trail d done built done'},
    Build.Expands w overrides trail d done built done' →
    Traced w overrides trail.embedding d built
  | _, d, _, _, _, .struct hkind hembedded hsettled => by
    obtain ⟨ts, us, hts, hsketches, hinner, hreached⟩ := ofNames_embedsAll hembedded
    obtain ⟨hclosed, -⟩ := Build.embedsAll_complete hembedded (fun _ => True)
      (fun _ _ _ _ => trivial) fun _ _ _ _ _ _ => trivial
    have hid := Build.Expands.id_eq (.struct hkind hembedded hsettled)
    have hmerges := merges_of_settlesAll hsettled hid hclosed
    rw [← hsketches] at hmerges
    obtain ⟨vs, hvs, hreached'⟩ := reached_settlesAll hsettled (KeyMap.nodup_keys _) fun n hn => by
      obtain ⟨k, p, hp, hpending⟩ := Sketch.mem_typeNames.mp hn
      refine ⟨k, p, ?_, hpending⟩
      rw [← List.foldl_map (f := Prod.fst) (g := ModelOf.merge), ModelOf.get?_foldl_merge, hp]
      rfl
    refine ⟨_, us ++ vs, .struct hkind hts hmerges, rfl, ?_, ?_⟩
    · rw [List.map_append, hinner, hvs]
    · exact (hreached.start fun t ht => ⟨_, List.mem_singleton_self _, fun _ h => h.embedded ht⟩).append
        (hreached' _ ts)
  | _, _, _, _, _, .bare hkind => ⟨_, [], .bare hkind, rfl, rfl, reached_nil⟩

theorem ofNames_embedsAll : ∀ {trail package fields done built done'},
    Build.EmbedsAll w overrides trail package fields done built done' →
    ∃ ts us, OfNames w overrides trail.embedding package
        (fields.filterMap (FieldDecl.embedded? overrides)) ts ∧
      ts.map sketch = built.map Prod.fst ∧ us.map sketch = built.flatMap Prod.snd ∧
      Reached w overrides ts us
  | _, _, _, _, _, _, .nil => ⟨[], [], .nil, rfl, rfl, reached_nil⟩
  | _, _, _, _, _, _, .skip hfield hrest => by
    rw [List.filterMap_cons_none hfield]
    exact ofNames_embedsAll hrest
  | _, _, _, _, _, _, .field hfield hfirst hrest => by
    obtain ⟨t?, us, ht, hsketch, hus, hreached⟩ := ofName_embeds hfirst
    obtain ⟨ts, vs, hts, hsketches, hvs, hreached'⟩ := ofNames_embedsAll hrest
    rw [List.filterMap_cons_some hfield]
    refine ⟨t?.toList ++ ts, us ++ vs, .cons ht hts, ?_, ?_, ?_⟩
    · rw [List.map_append, List.map_append, hsketches, ← Option.toList_map, hsketch,
        Option.toList_map]
    · rw [List.map_append, List.flatMap_append, hus, hvs]
    · exact (hreached.start fun t ht => ⟨t, List.mem_append_left _ ht, fun _ h => h⟩).append
        (hreached'.start fun t ht => ⟨t, List.mem_append_right _ ht, fun _ h => h⟩)

theorem ofName_embeds : ∀ {trail name package done found done'},
    Build.Embeds w overrides trail name package done found done' →
    ∃ t? us, OfName w overrides trail.embedding name package t? ∧
      t?.map sketch = found.map Prod.fst ∧ us.map sketch = found.toList.flatMap Prod.snd ∧
      Reached w overrides t?.toList us
  | _, _, _, _, _, _, .known hfound hknown =>
    ⟨none, [], .chained hfound hknown, rfl, rfl, reached_nil⟩
  | _, _, _, _, _, _, .follow hfound hnew hrole hrest => by
    obtain ⟨t?, us, ht, hrest⟩ := ofName_embeds hrest
    exact ⟨t?, us, .follow hfound hnew hrole ht, hrest⟩
  | _, _, _, _, _, _, .synonym hfound hnew hrole hkind =>
    ⟨none, [], .synonym hfound hnew hrole hkind, rfl, rfl, reached_nil⟩
  | _, _, _, _, _, _, .expand hfound hnew hkind hmodel => by
    obtain ⟨t, us, ht, hsketch, hus, hreached⟩ := of_expands hmodel
    refine ⟨some t, us, .declared hfound hnew hkind ht, congrArg some hsketch, ?_, hreached⟩
    rw [hus, Option.toList_some, List.flatMap_singleton]

theorem traced_resolves : ∀ {trail name package done outcome done'},
    Build.Resolves w overrides trail name package done outcome done' →
    ∀ root rest, outcome = .built root rest →
      Traced w overrides [root.id.modelId] root.id (root, rest)
  | _, _, _, _, _, _, .primitive _, _, _, h => nomatch h
  | _, _, _, _, _, _, .known _ _ _, _, _, h => nomatch h
  | _, _, _, _, _, _, .synonym _ _ _ _, _, _, h => nomatch h
  | _, _, _, _, _, _, .follow _ _ _ _ hrest, root, rest, h => traced_resolves hrest root rest h
  | _, _, _, _, _, _, .build _ _ _ _ hmodel, root, rest, h => by
    cases h
    have htraced := of_expands hmodel
    rw [hmodel.id_eq]
    exact htraced

theorem reached_settlesAll : ∀ {trail package names built done built' done'},
    Build.SettlesAll w overrides trail package names built done built' done' → names.Nodup →
    (∀ n ∈ names, ∃ k p, built.1.properties.get? k = some p ∧ p.content = .pending n) →
    ∃ us, built'.2 = built.2 ++ us.map sketch ∧
      ∀ fields ts, Reached w overrides [node built'.1 fields ts] us
  | _, _, _, _, _, _, _, .nil, _, _ => ⟨[], (List.append_nil _).symm, fun _ _ => reached_nil⟩
  | _, _, name :: _, _, _, _, _, .cons hfirst hrest, hnames, hpending => by
    rename_i outcome _
    obtain ⟨hname, hnames⟩ := List.nodup_cons.mp hnames
    obtain ⟨us, hus, hreached⟩ := exists_reached (traced_resolves hfirst)
    obtain ⟨vs, hvs, hreached'⟩ := reached_settlesAll hrest hnames fun n hn => by
      obtain ⟨k, p, hp, hn'⟩ := hpending n (List.mem_cons_of_mem _ hn)
      obtain ⟨q, hq, hcontent⟩ := content_settle name outcome.content hp hn'
      have hother : n ≠ name := fun h => hname (h ▸ hn)
      exact ⟨k, q, hq, hcontent.trans (if_neg hother)⟩
    refine ⟨us ++ vs, ?_, fun fields ts => (hreached _ fun e he => ?_).append (hreached' fields ts)⟩
    · rw [hvs, List.map_append, hus, List.append_assoc]
    · -- the name has been settled, and what has been put in stays
      obtain ⟨k, p, hp, hn⟩ := hpending name List.mem_cons_self
      obtain ⟨q, hq, hcontent⟩ := content_settle name outcome.content hp hn
      rw [if_pos rfl, he] at hcontent
      obtain ⟨meaning, -, -, hproperties⟩ := settlesAll_means hrest
      have hresolved : q.content.pending? = none := by
        rw [hcontent]
        rfl
      refine ⟨k, q, .own ?_, hcontent⟩
      rw [hproperties, hq, Option.map_some, Part.settleBy_of_pending? hresolved]

end

end

end Flattening

/-- **An expansion has a flattening**, in which it stands alone. -/
theorem Build.Expansion.flattening {w : Workspace} {overrides : Overrides} {s : Sketch}
    (h : Build.Expansion w overrides s) :
    ∃ t, Flattening.Of w overrides [s.id.modelId] s.id t ∧ t.sketch = s := by
  obtain ⟨trail, done, inner, done', htrail, hrun⟩ := h
  obtain ⟨t, us, ht, hsketch, -⟩ := Flattening.of_expands hrun
  rw [htrail] at ht
  exact ⟨t, ht, hsketch⟩

/-! ### Properties that stand in a struct -/

/-- A property refers to the model of a declaration. -/
def Sketch.RefersTo (s : Sketch) (e : Declared) : Prop :=
  ∃ k p, s.properties.get? k = some p ∧ p.content = .model e

namespace Flattening

variable {w : Workspace} {overrides : Overrides}

/-- The struct itself refers to all that is cited in it: no reference is lost. -/
def Keeps (t : Flattening) : Prop := ∀ e, t.Cites e → t.sketch.RefersTo e

section

variable {k : String} {p : Part}

/-- A merged sketch has a property under each name under which one stands in what is embedded. -/
theorem isSome_of_stands_node {d : Declared} {fields : List FieldDecl} {ts : List Flattening}
    {s : Sketch} (h : s.Merges w overrides d fields (ts.map sketch))
    (hts : ∀ t ∈ ts, t.Stands k p → (t.sketch.properties.get? k).isSome)
    (hp : (node s fields ts).Stands k p) : (s.properties.get? k).isSome := by
  obtain ⟨meaning, -, hproperties⟩ := h.properties
  cases hp with
  | own hp => exact Option.isSome_of_eq_some hp
  | embedded ht hp =>
    rw [hproperties, Option.isSome_or, Bool.or_eq_true, List.findSome?_isSome_iff]
    exact Or.inr ⟨_, List.mem_map_of_mem ht, hts _ ht hp⟩

/-- **A property is lost only behind another one with its name.** -/
theorem Of.isSome_of_stands {chain : List String} {d : Declared} {t : Flattening}
    (h : Of w overrides chain d t) : t.Stands k p → (t.sketch.properties.get? k).isSome :=
  h.holds fun hmerges hts => isSome_of_stands_node hmerges hts

end

end Flattening

/-! ### Resolutions -/

/-- A property of a model refers to another model, which is one of `ms`. -/
def Model.Cites (ms : List Model) (m n : Model) : Prop :=
  n ∈ ms ∧ ∃ k p, m.properties.get? k = some p ∧ (p.type = n.id ∨ p.items = some (.model n.id))

section

variable {w : Workspace} {overrides : Overrides}

theorem Sketch.RefersTo.model {s : Sketch} {e : Declared} (h : s.RefersTo e) :
    ∃ k p, s.model.properties.get? k = some p ∧
      (p.type = e.modelId ∨ p.items = some (.model e.modelId)) := by
  obtain ⟨k, p, hp, hcontent⟩ := h
  refine ⟨k, p.property, (KeyMap.get?_map _ _ _).trans (by rw [hp]; rfl), ?_⟩
  unfold Part.property
  rw [hcontent]
  split
  · exact Or.inr rfl
  · exact Or.inl rfl

/-- Where no reference is lost, ways through flattenings are ways through their models. -/
theorem Flattening.way_model {t u : Flattening} {us : List Flattening} (ht : t.Keeps)
    (hus : ∀ u ∈ us, u.Keeps) (h : Relation.TransGen (LeadsTo us) t u) :
    Relation.TransGen (Model.Cites (us.map Flattening.model)) t.model u.model := by
  have hstep : ∀ {t u : Flattening}, t.Keeps → LeadsTo us t u →
      Model.Cites (us.map Flattening.model) t.model u.model :=
    fun ht hleads => ⟨List.mem_map_of_mem hleads.1, (ht _ hleads.2).model⟩
  induction h with
  | single hleads => exact .single (hstep ht hleads)
  | tail hway hleads ih => exact .tail ih (hstep (hus _ (mem_of_transGen hway)) hleads)

theorem expand_traced {m : Memory} (hm : Coherent w m) {name package : String} {root : Sketch}
    {rest : List Sketch} (h : (w.expand overrides name package m).1 = .ok (root, rest)) :
    Flattening.Traced w overrides [root.id.modelId] root.id (root, rest) ∨
      rest = [] ∧ root = { id := root.id } := by
  obtain ⟨outcome, done, -, hrun, rfl | ⟨-, hbare⟩⟩ := expand_ok hm h
  · exact Or.inl (Flattening.traced_resolves hrun root rest rfl)
  · exact Or.inr hbare

/-- **Each inner model is reached from the resolved model**, along properties that stand in the structs
of the models on the way or in structs that are embedded there.  Such a property is lost only behind
another one with its name.  If no reference is lost so, then each inner model is reached along the
references of the result. -/
theorem resolveModel_reaches (w : Workspace) (overrides : Overrides) (history : List Request)
    (name package : String) {model : Model} {inner : List Model}
    (h : (w.resolveModel overrides name package (w.after history)).1 = .ok (model, inner)) :
    ∃ (root : Flattening) (rest : List Flattening),
      (w.expand overrides name package (w.after history)).1 =
        .ok (root.sketch, rest.map Flattening.sketch) ∧
      model = root.model ∧ inner = rest.map Flattening.model ∧
      (Flattening.Of w overrides [root.sketch.id.modelId] root.sketch.id root ∨
        rest = [] ∧ root.sketch = { id := root.sketch.id }) ∧
      (∀ u ∈ rest, Flattening.Of w overrides [u.sketch.id.modelId] u.sketch.id u ∧
        Relation.TransGen (Flattening.LeadsTo rest) root u) ∧
      (∀ t ∈ root :: rest, ∀ k p, t.Stands k p → (t.sketch.properties.get? k).isSome) ∧
      ((∀ t ∈ root :: rest, t.Keeps) →
        ∀ m ∈ inner, Relation.TransGen (Model.Cites inner) model m) := by
  have hm := coherent_after w history
  obtain ⟨root, rest, hexpand, rfl, rfl⟩ := resolveModel_models hm h
  rcases expand_traced hm hexpand with ⟨t, us, hof, rfl, rfl, hreached⟩ | ⟨rfl, hroot⟩
  · have hway : ∀ u ∈ us, Flattening.Of w overrides [u.sketch.id.modelId] u.sketch.id u ∧
        Relation.TransGen (Flattening.LeadsTo us) t u := by
      intro u hu
      obtain ⟨hofu, t', ht', hway⟩ := hreached u hu
      rw [List.mem_singleton.mp ht'] at hway
      exact ⟨hofu, hway⟩
    have hmodels : (us.map Flattening.sketch).map Sketch.model = us.map Flattening.model := by
      rw [List.map_map]
      rfl
    refine ⟨t, us, hexpand, rfl, hmodels, Or.inl hof, hway, fun u hu k p hp => ?_,
      fun hkeeps m hmem => ?_⟩
    · rcases List.mem_cons.mp hu with rfl | hu
      · exact hof.isSome_of_stands hp
      · exact (hway u hu).1.isSome_of_stands hp
    · rw [hmodels] at hmem ⊢
      obtain ⟨u, hu, rfl⟩ := List.mem_map.mp hmem
      exact Flattening.way_model (hkeeps t List.mem_cons_self)
        (fun v hv => hkeeps v (List.mem_cons_of_mem _ hv)) (hway u hu).2
  · refine ⟨.node root [] [], [], hexpand, rfl, rfl, Or.inr ⟨rfl, hroot⟩,
      fun _ hu => absurd hu List.not_mem_nil, fun t ht k p hp => ?_,
      fun _ _ hmem => absurd hmem List.not_mem_nil⟩
    rw [List.mem_singleton.mp ht] at hp ⊢
    cases hp with
    | own hp => exact Option.isSome_of_eq_some hp
    | embedded ht => cases ht

end

/-! ### A property that is shadowed -/

/-- A package in which an order has a property in place of one that it embeds. -/
def stall : Workspace where
  search := { roots := ["/"] }
  files := { root := .dir [("src", .dir [("shop", .dir [("shop.go", .text
    ("package shop\n\ntype Base struct \x7b\n\tOwner Person\n\x7d\n\n" ++
      "type Person struct \x7b\n\tName string\n\x7d\n\n" ++
      "type Order struct \x7b\n\tBase\n\tOwner string\n\x7d\n"))])])] }

def ownedModel : Model where
  id := "shop.Order"
  properties := KeyMap.ofList [("Owner", { type := "string" })]

def personModel : Model where
  id := "shop.Person"
  properties := KeyMap.ofList [("Name", { type := "string" })]

theorem resolve_owned :
    (stall.resolveModel ∅ "Order" "shop" (stall.after [])).1 = .ok (ownedModel, [personModel]) :=
  except_of_toOption (by decide +kernel)

/-- The person is listed for the property that is embedded in the order. -/
theorem resolveModel_reaches_owned :
    (stall.resolveModel ∅ "Order" "shop" (stall.after [])).1 = .ok (ownedModel, [personModel]) ∧
      ∃ root person : Flattening, root.model = ownedModel ∧ person.model = personModel ∧
        root.Cites person.sketch.id := by
  obtain ⟨root, rest, -, hmodel, hinner, -, hway, -⟩ :=
    resolveModel_reaches stall ∅ [] "Order" "shop" resolve_owned
  obtain ⟨person, hrest, hperson⟩ := List.map_eq_singleton_iff.mp hinner.symm
  have hmem : person ∈ rest := by simp [hrest]
  obtain ⟨first, ⟨hfirst, hcites⟩, -⟩ := Relation.TransGen.head'_iff.mp (hway person hmem).2
  rw [hrest, List.mem_singleton] at hfirst
  exact ⟨resolve_owned, root, person, hmodel.symm, hperson, hfirst ▸ hcites⟩

/-- The result lists the person, but nothing in it refers to the person. -/
theorem resolveModel_unneeded :
    ¬(∀ (w : Workspace) (overrides : Overrides) (name package : String) (model : Model)
        (inner : List Model),
        (w.resolveModel overrides name package {}).1 = .ok (model, inner) →
        ∀ m ∈ inner, Relation.TransGen (Model.Cites inner) model m) ∧
      (stall.resolveModel ∅ "Order" "shop" {}).1 = .ok (ownedModel, [personModel]) := by
  refine ⟨fun hall => ?_, resolve_owned⟩
  have hway := hall stall ∅ "Order" "shop" ownedModel [personModel] resolve_owned personModel
    (List.mem_singleton_self _)
  obtain ⟨m, ⟨hm, k, p, hp, hrefers⟩, -⟩ := Relation.TransGen.head'_iff.mp hway
  rw [List.mem_singleton.mp hm] at hrefers
  cases List.mem_singleton.mp (KeyMap.mem_of_get?_ofList hp)
  rcases hrefers with htype | hitems
  · exact absurd htype (by decide)
  · cases hitems

end ApiScribe
