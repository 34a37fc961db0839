import ApiScribe.Proofs.Model.Context

/-!
# Structs and what they embed

* `Flattening` — a model with the models that are embedded in it, and those embedded in these;
* `Sketch.Merges` — how the properties of one model come from its fields and from what it embeds;
* `Flattening.Of` — a flattening of a declaration inside some others; what is embedded again inside
  itself is left out;
* `Flattening.Of.holds` — the induction from embedded structs to those around them.
-/

namespace ApiScribe

/-! ### What the names of a struct stand for -/

/-- Puts in what each type name that is not resolved yet stands for. -/
def Part.settleBy (meaning : String → Content) (p : Part) : Part :=
  match p.content with
  | .pending name => { p with content := meaning name }
  | _ => p

section

variable {w : Workspace} {overrides : Overrides}

theorem Part.settleBy_of_pending? {p : Part} (h : p.content.pending? = none)
    (meaning : String → Content) : p.settleBy meaning = p := by
  unfold Part.settleBy
  cases hc : p.content with
  | primitive _ => rfl
  | model _ => rfl
  | pending _ =>
    rw [hc] at h
    cases h

theorem Content.Closed.pending? {known : Declared → Prop} {c : Content} (h : c.Closed known) :
    c.pending? = none := by
  cases c with
  | primitive _ => rfl
  | model _ => rfl
  | pending _ => exact h.elim

theorem Denotes.pending? {name package : String} {c : Content}
    (h : Denotes w overrides name package c) : c.pending? = none := by
  induction h with
  | primitive _ => rfl
  | declared _ _ => rfl
  | synonym _ _ _ => rfl
  | follow _ _ _ _ ih => exact ih

/-- One name after the other is settled, or all at once. -/
theorem Part.settleBy_settle {name : String} {c : Content} (hc : c.pending? = none)
    (meaning : String → Content) (p : Part) :
    (p.settle name c).settleBy meaning =
      p.settleBy fun n => if n = name then c else meaning n := by
  unfold Part.settle
  by_cases hp : p.content = .pending name
  · have hsettled : Part.settleBy meaning { p with content := c } = { p with content := c } :=
      Part.settleBy_of_pending? hc meaning
    rw [if_pos hp, hsettled]
    unfold Part.settleBy
    rw [hp]
    simp
  · rw [if_neg hp]
    unfold Part.settleBy
    cases hcontent : p.content with
    | primitive _ => rfl
    | model _ => rfl
    | pending n =>
      have hn : n ≠ name := fun h => hp (h ▸ hcontent)
      simp [hn]

/-- When all names of a model have been resolved, each part holds what its name stands for. -/
theorem settlesAll_means {trail : Trail} {package : String} {names : List String}
    {built built' : Built} {done done' : List String}
    (h : Build.SettlesAll w overrides trail package names built done built' done') :
    ∃ meaning, (∀ n ∈ names, Denotes w overrides n package (meaning n)) ∧
      built'.1.required = built.1.required ∧
      ∀ k, built'.1.properties.get? k =
        (built.1.properties.get? k).map (Part.settleBy meaning) := by
  induction names generalizing built done with
  | nil =>
    cases h
    have hkept : Part.settleBy .pending = id := by
      funext p
      unfold Part.settleBy
      split
      · rename_i hc
        rw [← hc]
        rfl
      · rfl
    refine ⟨.pending, (fun _ hn => nomatch hn), rfl, fun k => ?_⟩
    rw [hkept, Option.map_id, id]
  | cons name names ih =>
    cases h with
    | cons hfirst hrest =>
      rename_i outcome _
      have hdenotes := denotes_of_resolves hfirst
      obtain ⟨meaning, hmeaning, hrequired, hproperties⟩ := ih hrest
      refine ⟨fun n => if n = name then outcome.content else meaning n, fun n hn => ?_, hrequired,
        fun k => ?_⟩
      · by_cases heq : n = name
        · simpa [heq] using hdenotes
        · simpa [heq] using hmeaning n ((List.mem_cons.mp hn).resolve_left heq)
      · rw [hproperties, Sketch.get?_settle, Option.map_map]
        refine congrArg (Option.map · _) (funext fun p => ?_)
        exact Part.settleBy_settle hdenotes.pending? meaning p

end

/-! ### One struct and what it embeds -/

section

variable (w : Workspace) (overrides : Overrides)

/-- The sketch of a declaration is made of its fields, and of the sketches that are embedded in it. -/
structure Sketch.Merges (d : Declared) (fields : List FieldDecl) (embedded : List Sketch)
    (s : Sketch) : Prop where
  id : s.id = d
  /-- Fields go before embedded sketches, the last field with a name before the others with it, and
  the first sketch before the others. -/
  properties : ∃ meaning,
    (∀ n ∈ (Sketch.ofFields overrides d fields).typeNames,
      Denotes w overrides n d.package (meaning n)) ∧
    ∀ k, s.properties.get? k =
      (((FieldDecl.lastShown? overrides fields k).bind (Sketch.partOf? overrides)).map
        (Part.settleBy meaning)).or (embedded.findSome? fun c => c.properties.get? k)
  /-- Any field with the name can make it required. -/
  required : ∀ k, k ∈ s.required ↔
    (∃ f ∈ fields, f.shownAs? overrides = some k ∧ f.hints.required) ∨
      FieldDecl.lastShown? overrides fields k = none ∧
        ∃ c, embedded.find? (fun c => c.properties.contains k) = some c ∧ k ∈ c.required
  nodup : s.required.Nodup

end

section

variable {w : Workspace} {overrides : Overrides} {d : Declared} {fields : List FieldDecl}

/-- A field whose name stands in a property has a type that can be shown. -/
theorem partOf?_of_lastShown? {k : String} {f : FieldDecl}
    (h : FieldDecl.lastShown? overrides fields k = some f) :
    ∃ p, Sketch.partOf? overrides f = some p := by
  obtain ⟨p, hp, -⟩ :=
    Sketch.addField_shown (FieldDecl.mem_of_lastShown? h).2 (default : Sketch)
  exact ⟨p, hp⟩

theorem part_isSome_iff {k : String} :
    ((FieldDecl.lastShown? overrides fields k).bind (Sketch.partOf? overrides)).isSome ↔
      ∃ f ∈ fields, f.shownAs? overrides = some k := by
  cases hlast : FieldDecl.lastShown? overrides fields k with
  | none =>
    have hshown := FieldDecl.lastShown?_eq_none_iff.mp hlast
    simpa using hshown
  | some f =>
    obtain ⟨p, hp⟩ := partOf?_of_lastShown? hlast
    have hf := FieldDecl.mem_of_lastShown? hlast
    simp only [Option.bind_some, hp, Option.isSome_some, true_iff]
    exact ⟨f, hf⟩

theorem get?_ofFields_eq_none_iff {k : String} :
    (Sketch.ofFields overrides d fields).properties.get? k = none ↔
      FieldDecl.lastShown? overrides fields k = none := by
  rw [Sketch.get?_ofFields, ← Option.not_isSome_iff_eq_none, part_isSome_iff,
    FieldDecl.lastShown?_eq_none_iff]
  simp

/-- What merging and settling leave. -/
theorem merges_of_settlesAll {known : Declared → Prop} {trail : Trail} {embedded : List Built}
    {inner : List Sketch} {built : Built} {done done' : List String}
    (h : Build.SettlesAll w overrides trail d.package (Sketch.ofFields overrides d fields).typeNames
      (embedded.foldl (fun s child => s.merge child.1) (Sketch.ofFields overrides d fields), inner)
      done built done')
    (hid : built.1.id = d) (hembedded : ∀ child ∈ embedded, child.1.Closed known) :
    built.1.Merges w overrides d fields (embedded.map Prod.fst) := by
  obtain ⟨meaning, hmeaning, hrequired, hproperties⟩ := settlesAll_means h
  have hfold : embedded.foldl (fun s child => s.merge child.1) (Sketch.ofFields overrides d fields) =
      (embedded.map Prod.fst).foldl ModelOf.merge (Sketch.ofFields overrides d fields) := by
    rw [List.foldl_map]
  rw [hfold] at hrequired hproperties
  -- What is embedded has been settled before.
  have hkept : ∀ k, ((embedded.map Prod.fst).findSome? fun c => c.properties.get? k).map
      (Part.settleBy meaning) = (embedded.map Prod.fst).findSome? fun c => c.properties.get? k := by
    intro k
    cases hfirst : (embedded.map Prod.fst).findSome? fun c => c.properties.get? k with
    | none => rfl
    | some p =>
      obtain ⟨c, hc, hp⟩ := List.exists_of_findSome?_eq_some hfirst
      obtain ⟨child, hchild, rfl⟩ := List.mem_map.mp hc
      rw [Option.map_some, Part.settleBy_of_pending? (hembedded child hchild k p hp).pending?]
  refine ⟨hid, ⟨meaning, hmeaning, fun k => ?_⟩, fun k => ?_, ?_⟩
  · rw [hproperties, ModelOf.get?_foldl_merge, Option.map_or, hkept, Sketch.get?_ofFields]
  · rw [hrequired, ModelOf.mem_required_foldl_merge, Sketch.mem_required_ofFields,
      get?_ofFields_eq_none_iff]
  · rw [hrequired]
    exact ModelOf.nodup_required_foldl_merge _ (Sketch.nodup_required_ofFields d fields)

theorem Sketch.Merges.isSome_of_required {embedded : List Sketch} {s : Sketch}
    (h : s.Merges w overrides d fields embedded) {k : String} (hk : k ∈ s.required) :
    (s.properties.get? k).isSome := by
  obtain ⟨meaning, -, hproperties⟩ := h.properties
  rw [hproperties, Option.isSome_or, Bool.or_eq_true, Option.isSome_map, part_isSome_iff,
    List.findSome?_isSome_iff]
  rcases (h.required k).mp hk with ⟨f, hf, hname, -⟩ | ⟨-, c, hc, -⟩
  · exact Or.inl ⟨f, hf, hname⟩
  · have hhas := List.find?_some hc
    exact Or.inr ⟨c, List.mem_of_find?_eq_some hc, hhas⟩

theorem merges_bare (w : Workspace) (overrides : Overrides) (d : Declared) :
    Sketch.Merges w overrides d [] [] { id := d } where
  id := rfl
  properties := ⟨.pending, (fun _ h => nomatch h), fun _ => rfl⟩
  required := fun k => by simp
  nodup := List.nodup_nil

end

/-! ### Structs embedded in each other -/

/-- The sketch of a declaration with its fields, if it is a struct, and what is embedded in it. -/
inductive Flattening where
  | node (sketch : Sketch) (fields : List FieldDecl) (embedded : List Flattening)

namespace Flattening

def sketch : Flattening → Sketch
  | node s _ _ => s

def model (t : Flattening) : Model := t.sketch.model

section

variable (w : Workspace) (overrides : Overrides)

mutual

/-- A flattening of a declaration, inside those with the ids of `chain`, its own among them. -/
inductive Of : List String → Declared → Flattening → Prop
  | struct {chain d fields} {ts : List Flattening} {s : Sketch}
      (hkind : d.decl.kind = .struct fields)
      (hembedded : OfNames chain d.package (fields.filterMap (FieldDecl.embedded? overrides)) ts)
      (hmerges : s.Merges w overrides d fields (ts.map sketch)) : Of chain d (node s fields ts)
  | bare {chain d} (hkind : ∀ fields, d.decl.kind ≠ .struct fields) :
      Of chain d (node { id := d } [] [])

/-- Flattenings of what some names mean in a package, in their order. -/
inductive OfNames : List String → String → List String → List Flattening → Prop
  | nil {chain package} : OfNames chain package [] []
  | cons {chain package name names t? ts} (hfirst : OfName chain name package t?)
      (hrest : OfNames chain package names ts) :
      OfNames chain package (name :: names) (t?.toList ++ ts)

/-- A flattening of what a name means in a package, if it has anything to show. -/
inductive OfName : List String → String → String → Option Flattening → Prop
  | chained {chain name package d} (hfound : w.found name package = .ok d)
      (hchained : d.modelId ∈ chain) : OfName chain name package none
  | follow {chain name package d target t?} (hfound : w.found name package = .ok d)
      (hnew : d.modelId ∉ chain) (hrole : d.role overrides = .follows target)
      (hrest : OfName (d.modelId :: chain) target d.package t?) : OfName chain name package t?
  | synonym {chain name package d type} (hfound : w.found name package = .ok d)
      (hnew : d.modelId ∉ chain) (hrole : ∀ target, d.role overrides ≠ .follows target)
      (hkind : d.decl.kind = .synonym type) : OfName chain name package none
  | declared {chain name package d t} (hfound : w.found name package = .ok d)
      (hnew : d.modelId ∉ chain) (hkind : ∀ type, d.decl.kind ≠ .synonym type)
      (hmodel : Of (d.modelId :: chain) d t) : OfName chain name package (some t)

end

end

section

variable {w : Workspace} {overrides : Overrides}

/-- What is embedded inside itself gives nothing. -/
theorem OfName.chained_eq_none {chain : List String} {name package : String} {t? : Option Flattening}
    (h : OfName w overrides chain name package t?) {e : Declared}
    (he : w.found name package = .ok e) (hchained : e.modelId ∈ chain) : t? = none := by
  cases h with
  | chained _ _ => rfl
  | follow hfound hnew =>
    rw [he] at hfound
    cases hfound
    exact absurd hchained hnew
  | synonym _ _ _ _ => rfl
  | declared hfound hnew =>
    rw [he] at hfound
    cases hfound
    exact absurd hchained hnew

theorem Of.merges {chain : List String} {d : Declared} {t : Flattening}
    (h : Of w overrides chain d t) :
    ∃ fields embedded, t.sketch.Merges w overrides d fields embedded := by
  cases h with
  | struct _ _ hmerges => exact ⟨_, _, hmerges⟩
  | bare _ => exact ⟨_, _, merges_bare w overrides d⟩

theorem Of.of_struct {chain : List String} {d : Declared} {t : Flattening} {fields : List FieldDecl}
    (h : Of w overrides chain d t) (hkind : d.decl.kind = .struct fields) :
    ∃ ts : List Flattening, t = node t.sketch fields ts ∧
      OfNames w overrides chain d.package (fields.filterMap (FieldDecl.embedded? overrides)) ts ∧
      t.sketch.Merges w overrides d fields (ts.map sketch) := by
  cases h with
  | struct hkind' hembedded hmerges =>
    rw [hkind] at hkind'
    cases hkind'
    exact ⟨_, rfl, hembedded, hmerges⟩
  | bare hkind' => exact absurd hkind (hkind' fields)

/-! ### Induction over flattenings -/

section

variable {P : Flattening → Prop}

mutual

/-- What a merged sketch has whenever all that is embedded in it does, every flattening has. -/
theorem Of.holds (hnode : ∀ {d fields ts s}, Sketch.Merges w overrides d fields (ts.map sketch) s →
      (∀ t ∈ ts, P t) → P (node s fields ts)) :
    ∀ {chain d t}, Of w overrides chain d t → P t
  | _, _, _, .struct _ hembedded hmerges => hnode hmerges (OfNames.holds hnode hembedded)
  | _, d, _, .bare _ => by
    have hmerges : Sketch.Merges w overrides d [] (List.map sketch []) { id := d } :=
      merges_bare w overrides d
    exact hnode hmerges fun _ ht => nomatch ht

theorem OfNames.holds (hnode : ∀ {d fields ts s},
      Sketch.Merges w overrides d fields (ts.map sketch) s →
      (∀ t ∈ ts, P t) → P (node s fields ts)) :
    ∀ {chain package names ts}, OfNames w overrides chain package names ts → ∀ t ∈ ts, P t
  | _, _, _, _, .nil, _, ht => nomatch ht
  | _, _, _, _, .cons hfirst hrest, t, ht =>
    (List.mem_append.mp ht).elim (fun ht => OfName.holds hnode hfirst t (Option.mem_toList.mp ht))
      (OfNames.holds hnode hrest t)

theorem OfName.holds (hnode : ∀ {d fields ts s},
      Sketch.Merges w overrides d fields (ts.map sketch) s →
      (∀ t ∈ ts, P t) → P (node s fields ts)) :
    ∀ {chain name package t?}, OfName w overrides chain name package t? → ∀ t ∈ t?, P t
  | _, _, _, _, .chained _ _, _, ht => nomatch ht
  | _, _, _, _, .follow _ _ _ hrest, t, ht => OfName.holds hnode hrest t ht
  | _, _, _, _, .synonym _ _ _ _, _, ht => nomatch ht
  | _, _, _, _, .declared _ _ _ hmodel, t, ht => by
    cases ht
    exact Of.holds hnode hmodel

end

end

end

end Flattening

end ApiScribe
