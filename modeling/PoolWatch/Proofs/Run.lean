/-! # Running an operation

    The operations of the library pass a state along and may be refused; what
    was done until then stays done.  `runOn` runs one, and the laws below
    take a sequence apart: each part either answers, and the rest goes on
    from the state it left, or is refused, and its refusal is the answer. -/

namespace PoolWatch

variable {ε σ α β : Type}

/-- What an operation answers at a state, and the state that it leaves. -/
def runOn (op : ExceptT ε (StateM σ) α) (s : σ) : Except ε α × σ :=
  op.run.run s

@[simp] theorem runOn_pure (a : α) (s : σ) :
    runOn (pure a : ExceptT ε (StateM σ) α) s = (.ok a, s) := rfl

@[simp] theorem runOn_throw (e : ε) (s : σ) :
    runOn (throw e : ExceptT ε (StateM σ) α) s = (.error e, s) := rfl

@[simp] theorem runOn_get (s : σ) :
    runOn (get : ExceptT ε (StateM σ) σ) s = (.ok s, s) := rfl

@[simp] theorem runOn_set (s s' : σ) :
    runOn (set s' : ExceptT ε (StateM σ) PUnit) s = (.ok ⟨⟩, s') := rfl

@[simp] theorem runOn_modify (f : σ → σ) (s : σ) :
    runOn (modify f : ExceptT ε (StateM σ) PUnit) s = (.ok ⟨⟩, f s) := rfl

@[simp] theorem runOn_modifyGet (f : σ → α × σ) (s : σ) :
    runOn (modifyGet f : ExceptT ε (StateM σ) α) s = (.ok (f s).1, (f s).2) := rfl

/-- What is refused may be caught, from the state it left. -/
theorem runOn_tryCatch (op : ExceptT ε (StateM σ) α) (handle : ε → ExceptT ε (StateM σ) α)
    (s : σ) :
    runOn (tryCatch op handle) s =
      match runOn op s with
      | (.ok a, s') => (.ok a, s')
      | (.error e, s') => runOn (handle e) s' := by
  show (match op.run.run s with
    | (r, s') => StateT.run (match r with
      | .ok a => (pure (.ok a) : StateM σ (Except ε α))
      | .error e => (handle e).run) s') = _
  unfold runOn
  rcases op.run.run s with ⟨e | a, s'⟩ <;> rfl

theorem runOn_bind (op : ExceptT ε (StateM σ) α) (next : α → ExceptT ε (StateM σ) β) (s : σ) :
    runOn (op >>= next) s =
      match runOn op s with
      | (.ok a, s') => runOn (next a) s'
      | (.error e, s') => (.error e, s') := by
  show (ExceptT.bindCont next (op.run.run s).1).run (op.run.run s).2 = _
  unfold runOn
  rcases op.run.run s with ⟨e | a, s'⟩ <;> rfl

/-- A part that answers hands over to the rest. -/
theorem runOn_bind_ok {op : ExceptT ε (StateM σ) α} {s s' : σ} {a : α}
    (h : runOn op s = (.ok a, s')) (next : α → ExceptT ε (StateM σ) β) :
    runOn (op >>= next) s = runOn (next a) s' := by
  rw [runOn_bind, h]

/-- A part that is refused refuses the whole. -/
theorem runOn_bind_error {op : ExceptT ε (StateM σ) α} {s s' : σ} {e : ε}
    (h : runOn op s = (.error e, s')) (next : α → ExceptT ε (StateM σ) β) :
    runOn (op >>= next) s = (.error e, s') := by
  rw [runOn_bind, h]

/-- A sequence that answers is made of parts that answer. -/
theorem runOn_bind_eq_ok {op : ExceptT ε (StateM σ) α} {next : α → ExceptT ε (StateM σ) β}
    {s s'' : σ} {b : β} (h : runOn (op >>= next) s = (.ok b, s'')) :
    ∃ a s', runOn op s = (.ok a, s') ∧ runOn (next a) s' = (.ok b, s'') := by
  rw [runOn_bind] at h
  rcases hop : runOn op s with ⟨e | a, s'⟩
  · rw [hop] at h
    cases h
  · rw [hop] at h
    exact ⟨a, s', rfl, h⟩

/-! ## Answers without a state -/

theorem bind_eq_ok {x : Except ε α} {next : α → Except ε β} {b : β} :
    x >>= next = .ok b ↔ ∃ a, x = .ok a ∧ next a = .ok b := by
  constructor
  · intro h
    rcases x with e | a
    · cases h
    · exact ⟨a, rfl, h⟩
  · rintro ⟨a, rfl, h⟩
    exact h

/-- What is told in another form was answered. -/
theorem map_eq_ok {x : Except ε α} {f : α → β} {b : β} :
    x.map f = .ok b ↔ ∃ a, x = .ok a ∧ b = f a := by
  rcases x with e | a
  · exact ⟨nofun, nofun⟩
  · simp [Except.map, eq_comm]

theorem map_eq_error {x : Except ε α} {f : α → β} {e : ε} :
    x.map f = .error e ↔ x = .error e := by
  cases x <;> simp [Except.map]

end PoolWatch
