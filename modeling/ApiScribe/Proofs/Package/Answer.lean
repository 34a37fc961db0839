import ApiScribe.Package.Workspace

/-!
# Sessions with one answer

`Gives I x b`: whatever is remembered, as long as it satisfies `I`, the answer of `x` is `b`, and
what is remembered afterwards satisfies `I` again.  A session that is put together from such steps
has one answer too (`Gives.bind`): the one that the same steps have where nothing is remembered.
-/

namespace ApiScribe

/-- From every memory with `I`, the answer is `b` and leaves a memory with `I`. -/
def Gives (I : Memory → Prop) {β : Type} (x : StateM Memory β) (b : β) : Prop :=
  ∀ m, I m → (x m).1 = b ∧ I (x m).2

section

variable {I : Memory → Prop} {α β : Type}

theorem gives_pure (a : α) : Gives I (pure a : Session α) (pure a : Except Error α) :=
  fun _ hm => ⟨rfl, hm⟩

theorem gives_throw (e : Error) : Gives I (throw e : Session α) (throw e : Except Error α) :=
  fun _ hm => ⟨rfl, hm⟩

theorem Gives.lift {x : StateM Memory α} {a : α} (h : Gives I x a) :
    Gives I (x : Session α) (.ok a) := by
  intro m hm
  obtain ⟨ha, hI⟩ := h m hm
  exact ⟨congrArg Except.ok ha, hI⟩

theorem except_bind_ok {x : Except Error α} {f : α → Except Error β} {b : β} :
    (x >>= f) = .ok b ↔ ∃ a, x = .ok a ∧ f a = .ok b := by
  constructor
  · intro h
    cases x with
    | error e => cases h
    | ok a => exact ⟨a, rfl, h⟩
  · rintro ⟨a, rfl, h⟩
    exact h

theorem except_bind_error {x : Except Error α} {f : α → Except Error β} {e : Error} :
    (x >>= f) = .error e ↔ x = .error e ∨ ∃ a, x = .ok a ∧ f a = .error e := by
  cases x with
  | error e' =>
    constructor
    · intro h
      cases h
      exact Or.inl rfl
    · rintro (h | ⟨_, h, _⟩)
      · cases h
        rfl
      · cases h
  | ok a =>
    constructor
    · exact fun h => Or.inr ⟨a, rfl, h⟩
    · rintro (h | ⟨_, h, hf⟩)
      · cases h
      · cases h
        exact hf

theorem except_map_ok {x : Except Error α} {f : α → β} {b : β} :
    x.map f = .ok b ↔ ∃ a, x = .ok a ∧ f a = b := by
  cases x with
  | error e => exact ⟨(fun h => nomatch h), fun ⟨_, h, _⟩ => nomatch h⟩
  | ok a =>
    constructor
    · intro h
      exact ⟨a, rfl, Except.ok.inj h⟩
    · rintro ⟨_, h, rfl⟩
      cases h
      rfl

theorem except_of_toOption {x : Except Error α} {a : α} (h : x.toOption = some a) : x = .ok a := by
  cases x with
  | error e => cases h
  | ok b =>
    cases h
    rfl

section

variable {σ : Type} {x : ExceptT Error (StateM σ) α} {f : α → ExceptT Error (StateM σ) β} {s s' : σ}

theorem exceptT_bind_ok {a : α} (h : x s = (.ok a, s')) : (x >>= f) s = f a s' := by
  show ExceptT.bindCont f (x s).1 (x s).2 = _
  rw [h]
  rfl

theorem exceptT_bind_error {e : Error} (h : x s = (.error e, s')) :
    (x >>= f) s = (.error e, s') := by
  show ExceptT.bindCont f (x s).1 (x s).2 = _
  rw [h]
  rfl

end

theorem session_bind (x : Session α) (f : α → Session β) (m : Memory) :
    (x >>= f) m = match x m with
      | (.ok a, m') => f a m'
      | (.error e, m') => (.error e, m') := by
  rcases h : x m with ⟨e | a, m'⟩
  · exact exceptT_bind_error h
  · exact exceptT_bind_ok h

theorem stateM_bind {σ : Type} (x : StateM σ α) (f : α → StateM σ β) (s : σ) :
    (x >>= f) s = f (x s).1 (x s).2 := rfl

theorem Gives.ok_bind {x : Session α} {f : α → Session β} {a : α} {r : Except Error β}
    (hx : Gives I x (.ok a)) (hf : Gives I (f a) r) : Gives I (x >>= f : Session β) r := by
  intro m hm
  obtain ⟨ha, hI⟩ := hx m hm
  rw [session_bind]
  generalize x m = y at ha hI ⊢
  obtain ⟨r', m'⟩ := y
  cases ha
  exact hf m' hI

theorem Gives.error_bind {x : Session α} {f : α → Session β} {e : Error}
    (hx : Gives I x (.error e)) : Gives I (x >>= f : Session β) (.error e) := by
  intro m hm
  obtain ⟨he, hI⟩ := hx m hm
  rw [session_bind]
  generalize x m = y at he hI ⊢
  obtain ⟨r', m'⟩ := y
  cases he
  exact ⟨rfl, hI⟩

/-- **Step by step, a session answers as the same steps do without a memory.** -/
theorem Gives.bind {x : Session α} {f : α → Session β} {r : Except Error α}
    {g : α → Except Error β} (hx : Gives I x r) (hf : ∀ a, Gives I (f a) (g a)) :
    Gives I (x >>= f : Session β) (r >>= g) := by
  cases r with
  | error e => exact hx.error_bind
  | ok a => exact hx.ok_bind (hf a)

/-- From every memory with `I` the answer is the same, and leaves a memory with `I`. -/
def HasAnswer (I : Memory → Prop) (x : Session α) : Prop := ∃ r, Gives I x r

theorem HasAnswer.bind {x : Session α} {f : α → Session β} (hx : HasAnswer I x)
    (hf : ∀ a, HasAnswer I (f a)) : HasAnswer I (x >>= f : Session β) := by
  obtain ⟨r, hr⟩ := hx
  cases r with
  | error e => exact ⟨_, hr.error_bind⟩
  | ok a =>
    obtain ⟨r', hr'⟩ := hf a
    exact ⟨r', hr.ok_bind hr'⟩

theorem HasAnswer.eq {x : Session α} (h : HasAnswer I x) {m m' : Memory} (hm : I m) (hm' : I m') :
    (x m).1 = (x m').1 := by
  obtain ⟨r, hr⟩ := h
  rw [(hr m hm).1, (hr m' hm').1]

theorem Gives.stateM_bind {x : StateM Memory α} {f : α → StateM Memory β} {a : α} {b : β}
    (hx : Gives I x a) (hf : Gives I (f a) b) : Gives I (x >>= f) b := by
  intro m hm
  obtain ⟨ha, hI⟩ := hx m hm
  rw [ApiScribe.stateM_bind, ha]
  exact hf _ hI

end

end ApiScribe
