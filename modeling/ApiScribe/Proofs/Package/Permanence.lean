import ApiScribe.Proofs.Model.Growth

/-!
# Answers that stay

What has been found out about packages is written down, and asked again it is not looked up once more:
the answer is the same although the files are not.

* `Question`, `Answer` — what is asked about packages again and again, and what is answered;
* `Memory.known?` — the answers that are written down;
* `Workspace.answer_of_known`, `Workspace.known?_of_answer` — an answer that is written down is given,
  and one that is given is written down;
* `Workspace.answers_stay` — so an answer stays, whatever is asked later and however the files change.
-/

namespace ApiScribe

/-! ### Questions -/

/-- What is asked about packages and their directories. -/
inductive Question where
  /-- Where a package is. -/
  | location (id : String)
  /-- What the sources of a directory are. -/
  | sources (path : String)
  /-- What a directory imports. -/
  | imports (path : String)
  /-- What a name stands for in a directory. -/
  | declaration (path name : String)
  deriving DecidableEq, Repr

inductive Answer where
  /-- The location of a package, or that it has none. -/
  | location (found : Option String)
  | sources (units : List SourceUnit)
  | imports (table : ImportTable)
  /-- A declaration, or that there is none of the name. -/
  | declaration (decl : Option TypeDecl)
  deriving DecidableEq, Repr

namespace Question

/-- The question with the one spelling of its directory. -/
def normal : Question → Question
  | location id => location id
  | sources path => sources (Path.normal path)
  | imports path => imports (Path.normal path)
  | declaration path name => declaration (Path.normal path) name

end Question

/-- The answer to a question that is written down. -/
def Memory.known? (m : Memory) : Question → Option Answer
  | .location id => (m.locations.get? id).map .location
  | .sources path => (m.units.get? (Path.normal path)).map .sources
  | .imports path => (m.imports.get? (Path.normal path)).map .imports
  | .declaration path name =>
    (m.types.get? (Path.normal path)).map fun types => .declaration (types.get? name)

theorem Memory.known?_congr {m : Memory} {q q' : Question} (h : q.normal = q'.normal) :
    m.known? q = m.known? q' := by
  cases q <;> cases q' <;> simp_all [Question.normal, Memory.known?]

/-- What is known to one memory is known to all that come after it. -/
theorem Memory.Within.known? {m m' : Memory} (h : m.Within m') {q : Question} {a : Answer}
    (hq : m.known? q = some a) : m'.known? q = some a := by
  cases q with
  | location id =>
    obtain ⟨found, hfound, rfl⟩ := Option.map_eq_some_iff.mp hq
    exact Option.map_eq_some_iff.mpr ⟨found, h.locations _ _ hfound, rfl⟩
  | sources path =>
    obtain ⟨units, hunits, rfl⟩ := Option.map_eq_some_iff.mp hq
    exact Option.map_eq_some_iff.mpr ⟨units, h.units _ _ hunits, rfl⟩
  | imports path =>
    obtain ⟨table, htable, rfl⟩ := Option.map_eq_some_iff.mp hq
    exact Option.map_eq_some_iff.mpr ⟨table, h.imports _ _ htable, rfl⟩
  | declaration path name =>
    obtain ⟨types, htypes, rfl⟩ := Option.map_eq_some_iff.mp hq
    exact Option.map_eq_some_iff.mpr ⟨types, h.types _ _ htypes, rfl⟩

namespace Workspace

/-- Asks a question: the answer, if there is one, and what is remembered then.  Sources may not be
readable; the imports of a directory are told once they have been recorded, and its declarations once
they have been registered. -/
def answer (w : Workspace) (m : Memory) : Question → Option Answer × Memory
  | .location id => (some (.location (w.tryResolve id m).1), (w.tryResolve id m).2)
  | .sources path => ((w.loadPackage path m).1.toOption.map .sources, (w.loadPackage path m).2)
  | .imports path => ((m.importTable? path).map .imports, m)
  | .declaration path name =>
    (if m.isRegistered path then some (.declaration (m.type? path name)) else none, m)

variable {w : Workspace} {m m' : Memory} {q : Question} {a : Answer}

/-- **An answer that is written down is given**, and nothing else is looked at. -/
theorem answer_of_known (h : m.known? q = some a) : w.answer m q = (some a, m) := by
  cases q with
  | location id =>
    obtain ⟨found, hfound, rfl⟩ := Option.map_eq_some_iff.mp h
    obtain ⟨search, hsearch⟩ := exists_remember w id
    rw [answer, hsearch, remember_apply, hfound]
  | sources path =>
    obtain ⟨units, hunits, rfl⟩ := Option.map_eq_some_iff.mp h
    rw [answer, loadPackage_known hunits]
    rfl
  | imports path => exact congrArg (·, m) h
  | declaration path name =>
    obtain ⟨types, htypes, rfl⟩ := Option.map_eq_some_iff.mp h
    have hregistered : m.isRegistered path = true := KeyMap.contains_iff.mpr ⟨types, htypes⟩
    have htype : m.type? path name = types.get? name := by rw [Memory.type?, htypes]; rfl
    rw [answer, if_pos hregistered, htype]

/-- **An answer that is given is written down.** -/
theorem known?_of_answer (h : w.answer m q = (some a, m')) : m'.known? q = some a := by
  cases q with
  | location id =>
    cases h
    exact Option.map_eq_some_iff.mpr ⟨_, get?_tryResolve w id m, rfl⟩
  | sources path =>
    obtain ⟨hanswer, rfl⟩ := Prod.mk.inj h
    obtain ⟨units, hunits, rfl⟩ := Option.map_eq_some_iff.mp hanswer
    have hload : w.loadPackage path m = (.ok units, (w.loadPackage path m).2) :=
      Prod.ext (except_of_toOption hunits) rfl
    exact Option.map_eq_some_iff.mpr ⟨units, units_of_loadPackage hload, rfl⟩
  | imports path =>
    obtain ⟨hanswer, rfl⟩ := Prod.mk.inj h
    exact hanswer
  | declaration path name =>
    obtain ⟨hanswer, rfl⟩ := Prod.mk.inj h
    obtain ⟨hregistered, hdecl⟩ := Option.ite_none_right_eq_some.mp hanswer
    cases hdecl
    obtain ⟨types, htypes⟩ := KeyMap.contains_iff.mp hregistered
    refine Option.map_eq_some_iff.mpr ⟨types, htypes, ?_⟩
    rw [Memory.type?, htypes]
    rfl

/-- The answer to a question stays, whatever is asked later and however the files change: it is
given for all spellings of the directory, and nothing changes by that. -/
def Stays (w : Workspace) (m : Memory) (q : Question) (a : Answer) : Prop :=
  ∀ (later : List (FileTree × Request)) (files : FileTree) (q' : Question), q'.normal = q.normal →
    answer { w with files } (w.amid m later) q' = (some a, w.amid m later)

theorem Stays.answer (h : w.Stays m q a) : w.answer m q = (some a, m) := h [] w.files q rfl

theorem stays_of_known (h : m.known? q = some a) : w.Stays m q a := by
  intro later files q' hq'
  refine answer_of_known ?_
  rw [Memory.known?_congr hq']
  exact (m.within_amid w later).known? h

/-! ### Requests -/

theorem stays_imports {path : String} {table : ImportTable} (h : m.importTable? path = some table) :
    w.Stays m (.imports path) (.imports table) :=
  stays_of_known (Option.map_eq_some_iff.mpr ⟨table, h, rfl⟩)

theorem stays_declaration {path : String} (h : m.isRegistered path) (name : String) :
    w.Stays m (.declaration path name) (.declaration (m.type? path name)) :=
  stays_of_known (known?_of_answer (w := w) (m := m) (by rw [answer, if_pos h]))

/-- **What has been answered stays answered.**  Requests are answered one after the other, each with the
files as they are by then, and so is one more.  If it is a question that is answered, then the answer
stays: the location of a package or that there is none, the sources of a directory, its imports, and
what the names stand for there.  When the imports of a directory have been asked for, there is a table
of them; and when a package has been registered, its location has one too, and is registered. -/
theorem answers_stay (w : Workspace) (before : List (FileTree × Request)) (now : FileTree) :
    let m := w.amid {} before
    let here : Workspace := { w with files := now }
    (∀ q a m', here.answer m q = (some a, m') → w.Stays m' q a) ∧
    (∀ path paths m', here.recordImports path m = (.ok paths, m') →
      ∃ table, w.Stays m' (.imports path) (.imports table)) ∧
    (∀ id paths m', here.register id m = (.ok paths, m') →
      ∃ location, w.Stays m' (.location id) (.location (some location)) ∧
        (∃ table, w.Stays m' (.imports location) (.imports table)) ∧
        ∀ name, w.Stays m' (.declaration location name)
          (.declaration (m'.type? location name))) := by
  intro m here
  refine ⟨fun q a m' hanswer => stays_of_known (known?_of_answer hanswer), ?_, ?_⟩
  · intro path paths m' hrecord
    obtain ⟨table, htable⟩ := KeyMap.contains_iff.mp (contains_recordImports hrecord)
    exact ⟨table, stays_imports htable⟩
  · intro id paths m' hregister
    obtain ⟨location, hlocation, hregistered⟩ := location_of_register hregister
    obtain rfl : m' = (here.register id m).2 := (congrArg Prod.snd hregister).symm
    refine ⟨location, stays_of_known ?_, ?_, stays_declaration hregistered⟩
    · have hfound := (within_register id m).locations _ _ (get?_tryResolve here id m)
      exact Option.map_eq_some_iff.mpr ⟨_, hfound, congrArg _ hlocation⟩
    · -- Nothing is registered at first, so of all that is by now the imports are recorded.
      have hrecorded := (({} : Memory).within_amid w before).trans (growing_register (w := here) id m)
        |>.recorded hregistered
      obtain ⟨table, htable⟩ := KeyMap.contains_iff.mp (hrecorded.resolve_left nofun)
      exact ⟨table, stays_imports htable⟩

/-- One package with an import and a type. -/
def stall : Workspace where
  search := { roots := ["/"] }
  files := { root := .dir [("src", .dir [("shop", .dir [
    ("shop.go", .text "package shop\n\nimport \"acme/models\"\n\ntype Order struct\x7b\x7d\n")])])] }

/-- The package `cart` is asked for before there are any files, and is not there from then on; and what
`shop` imports and declares is what it did when it was registered. -/
theorem answers_stay_stall :
    let m := stall.amid {} [({}, .tryResolve "cart")]
    answer { stall with files := {} } {} (.location "cart") = (some (.location none), m) ∧
    stall.Stays m (.location "cart") (.location none) ∧
    ∃ (m' : Memory) (table : ImportTable),
      stall.register "shop" m = (.ok ["acme/models"], m') ∧
      stall.recordImports "/src/shop" m' = (.ok [], m') ∧
      table.entries = [("models", ["acme/models"])] ∧
      (m'.type? "/src/shop" "Order").isSome ∧
      stall.Stays m' (.location "shop") (.location (some "/src/shop")) ∧
      stall.Stays m' (.imports "/src/shop") (.imports table) ∧
      stall.Stays m' (.declaration "/src/shop" "Order")
        (.declaration (m'.type? "/src/shop" "Order")) := by
  intro m
  let m' := (stall.register "shop" m).2
  have hcart : answer { stall with files := {} } {} (.location "cart") =
      (some (.location none), m) := Prod.ext (by decide +kernel) rfl
  have hregister : stall.register "shop" m = (.ok ["acme/models"], m') :=
    Prod.ext (except_of_toOption (by decide +kernel)) rfl
  have hrecord : stall.recordImports "/src/shop" m' = (.ok [], m') := by
    rw [recordImports_apply, if_pos (by decide +kernel)]
  have hshop : (stall.answer m' (.location "shop")).1 =
      some (.location (some "/src/shop")) := by decide +kernel
  have hentries : (m'.importTable? "/src/shop").map (·.entries) =
      some [("models", ["acme/models"])] := by decide +kernel
  obtain ⟨hanswer, -, -⟩ := answers_stay stall [] {}
  obtain ⟨-, -, hregistered⟩ := answers_stay stall [({}, .tryResolve "cart")] stall.files
  obtain ⟨-, hrecorded, -⟩ :=
    answers_stay stall [({}, .tryResolve "cart"), (stall.files, .register "shop")] stall.files
  obtain ⟨location, hlocation, -, hdecl⟩ := hregistered "shop" _ _ hregister
  obtain ⟨table, htable⟩ := hrecorded "/src/shop" _ _ hrecord
  obtain rfl : location = "/src/shop" := by
    rw [hlocation.answer] at hshop
    cases hshop
    rfl
  refine ⟨hcart, hanswer _ _ _ hcart, m', table, hregister, hrecord, ?_, by decide +kernel, hlocation,
    htable, hdecl "Order"⟩
  obtain ⟨recorded, hget, heq⟩ := Option.map_eq_some_iff.mp (Prod.mk.inj htable.answer).1
  cases heq
  rw [hget] at hentries
  exact Option.some.inj hentries

end Workspace

end ApiScribe
