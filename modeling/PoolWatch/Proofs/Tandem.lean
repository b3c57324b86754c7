import PoolWatch.Proofs.Frame

/-! # Two runs side by side

    To compare what an operation does from two states, both runs are followed
    at once.  A tandem says when two states are alike, and what may become of
    a pair of them; two operations go together when from alike states they
    give answers that correspond and leave alike states, within the frame of
    the pair.  As with frames, a sequence goes together when its parts do. -/

namespace PoolWatch

/-- Refusals are the same, and answers correspond. -/
inductive Agree {ε α β : Type} (R : α → β → Prop) : Except ε α → Except ε β → Prop where
  | ok {a : α} {b : β} : R a b → Agree R (.ok a) (.ok b)
  | error (e : ε) : Agree R (.error e) (.error e)

theorem Agree.mono {ε α β : Type} {R R' : α → β → Prop} {x : Except ε α} {y : Except ε β}
    (h : Agree R x y) (himp : ∀ a b, R a b → R' a b) : Agree R' x y := by
  cases h with
  | ok hab => exact .ok (himp _ _ hab)
  | error e => exact .error e

/-- When two states are alike, and what may become of a pair of states. -/
structure Tandem (σ : Type) where
  alike : σ → σ → Prop
  steps : Frame (σ × σ)

namespace Tandem

variable {ε σ α β α' β' : Type}

/-- What two runs came to. -/
structure After (T : Tandem σ) (R : α → β → Prop) (s t : σ) (x : α × σ) (y : β × σ) : Prop where
  answers : R x.1 y.1
  alike : T.alike x.2 y.2
  steps : T.steps.rel (s, t) (x.2, y.2)

/-- Two operations that go together; their answers correspond. -/
def Allows (T : Tandem σ) (R : α → β → Prop) (op : StateM σ α) (op' : StateM σ β) : Prop :=
  ∀ s t, T.alike s t → T.After R s t (op.run s) (op'.run t)

variable {T : Tandem σ} {R : α → β → Prop} {S : α' → β' → Prop}

/-! ## Operations that cannot be refused -/

theorem allows_pure {a : α} {b : β} (h : R a b) :
    T.Allows R (pure a : StateM σ α) (pure b) :=
  fun _ _ halike => ⟨h, halike, T.steps.refl _⟩

theorem allows_bind {op : StateM σ α} {op' : StateM σ β} {next : α → StateM σ α'}
    {next' : β → StateM σ β'} (h : T.Allows R op op')
    (hnext : ∀ a b, R a b → T.Allows S (next a) (next' b)) :
    T.Allows S (op >>= next) (op' >>= next') := by
  intro s t halike
  have hfirst := h s t halike
  have hrest := hnext _ _ hfirst.answers _ _ hfirst.alike
  exact ⟨hrest.answers, hrest.alike, T.steps.trans hfirst.steps hrest.steps⟩

/-! ## Operations that may be refused -/

/-- Two refusable operations go together when their refusals are the same and
    their answers correspond. -/
def Permits (T : Tandem σ) (R : α → β → Prop) (op : ExceptT ε (StateM σ) α)
    (op' : ExceptT ε (StateM σ) β) : Prop :=
  ∀ s t, T.alike s t → T.After (Agree R) s t (runOn op s) (runOn op' t)

theorem permits_pure {a : α} {b : β} (h : R a b) :
    T.Permits R (pure a : ExceptT ε (StateM σ) α) (pure b) :=
  fun _ _ halike => ⟨.ok h, halike, T.steps.refl _⟩

theorem permits_throw (e : ε) :
    T.Permits R (throw e : ExceptT ε (StateM σ) α) (throw e : ExceptT ε (StateM σ) β) :=
  fun _ _ halike => ⟨.error e, halike, T.steps.refl _⟩

theorem permits_bind {op : ExceptT ε (StateM σ) α} {op' : ExceptT ε (StateM σ) β}
    {next : α → ExceptT ε (StateM σ) α'} {next' : β → ExceptT ε (StateM σ) β'}
    (h : T.Permits R op op') (hnext : ∀ a b, R a b → T.Permits S (next a) (next' b)) :
    T.Permits S (op >>= next) (op' >>= next') := by
  intro s t halike
  have hfirst := h s t halike
  rw [runOn_bind, runOn_bind]
  rcases hs : runOn op s with ⟨x, s'⟩
  rcases ht : runOn op' t with ⟨y, t'⟩
  rw [hs, ht] at hfirst
  obtain ⟨hanswers, hleft, hsteps⟩ := hfirst
  -- both were refused for the same reason, or both go on
  cases hanswers with
  | error e => exact ⟨.error e, hleft, hsteps⟩
  | ok hab =>
    have hrest := hnext _ _ hab _ _ hleft
    exact ⟨hrest.answers, hrest.alike, T.steps.trans hsteps hrest.steps⟩

/-- A refusal ends both, whatever was to follow. -/
theorem permits_throw_bind (e : ε) (next : α → ExceptT ε (StateM σ) α')
    (next' : β → ExceptT ε (StateM σ) β') :
    T.Permits S (throw e >>= next) (throw e >>= next') :=
  fun _ _ halike => ⟨.error e, halike, T.steps.refl _⟩

/-- What follows a look at the states may differ as far as it goes together. -/
theorem permits_get_bind {next : σ → ExceptT ε (StateM σ) α} {next' : σ → ExceptT ε (StateM σ) β}
    (h : ∀ s t, T.alike s t → T.After (Agree R) s t (runOn (next s) s) (runOn (next' t) t)) :
    T.Permits R (get >>= next) (get >>= next') :=
  fun s t halike => h s t halike

/-- Answers that correspond in one way also do in a weaker one. -/
theorem permits_mono {R' : α → β → Prop} {op : ExceptT ε (StateM σ) α}
    {op' : ExceptT ε (StateM σ) β} (h : T.Permits R op op') (himp : ∀ a b, R a b → R' a b) :
    T.Permits R' op op' := by
  intro s t halike
  obtain ⟨hanswers, hleft, hsteps⟩ := h s t halike
  exact ⟨hanswers.mono himp, hleft, hsteps⟩

theorem permits_lift {op : StateM σ α} {op' : StateM σ β} (h : T.Allows R op op') :
    T.Permits R (liftM op : ExceptT ε (StateM σ) α) (liftM op' : ExceptT ε (StateM σ) β) :=
  fun s t halike => ⟨.ok (h s t halike).answers, (h s t halike).alike, (h s t halike).steps⟩

end Tandem

/-! ## Answers -/

theorem Agree.mapError {ε ε' α β : Type} {R : α → β → Prop} (wrap : ε → ε') {x : Except ε α}
    {y : Except ε β} (h : Agree R x y) : Agree R (x.mapError wrap) (y.mapError wrap) := by
  cases h with
  | ok hab => exact .ok hab
  | error e => exact .error (wrap e)

theorem agree_eq_iff {ε α : Type} {x y : Except ε α} : Agree Eq x y ↔ x = y := by
  constructor
  · rintro (h | e)
    · rw [h]
    · rfl
  · rintro rfl
    cases x with
    | ok a => exact .ok rfl
    | error e => exact .error e

end PoolWatch
