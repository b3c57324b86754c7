import PoolWatch.Proofs.Run
import Mathlib.Data.List.Forall2

/-! # Frames

    A frame says what may become of a state, and an operation stays within it
    when nothing else does, whether it answers or is refused.  To show this
    of a sequence is to show it of each part: a frame allows doing nothing,
    and one thing after another. -/

namespace PoolWatch

/-- What may become of a state. -/
structure Frame (σ : Type) where
  rel : σ → σ → Prop
  refl : ∀ s, rel s s
  trans : ∀ {s s' s''}, rel s s' → rel s' s'' → rel s s''

namespace Frame

variable {ε σ τ α β : Type}

/-- What is seen of the state stays as it is. -/
def ofView (view : σ → β) : Frame σ where
  rel s s' := view s' = view s
  refl _ := rfl
  trans h h' := h'.trans h

/-- What holds of the state goes on to hold. -/
def ofProperty (p : σ → Prop) : Frame σ where
  rel s s' := p s → p s'
  refl _ := id
  trans h h' := fun hp => h' (h hp)

/-- A frame for a part of the state. -/
def within (part : τ → σ) (F : Frame σ) : Frame τ where
  rel s s' := F.rel (part s) (part s')
  refl s := F.refl (part s)
  trans h h' := F.trans h h'

/-- An operation that cannot be refused stays within a frame. -/
def Allows (F : Frame σ) (op : StateM σ α) : Prop :=
  ∀ s, F.rel s (op.run s).2

variable {F : Frame σ}

/-! ## Operations that cannot be refused -/

theorem allows_pure (a : α) : F.Allows (pure a : StateM σ α) := fun s => F.refl s

theorem allows_bind {op : StateM σ α} {next : α → StateM σ β} (h : F.Allows op)
    (hnext : ∀ a, F.Allows (next a)) : F.Allows (op >>= next) := by
  intro s
  exact F.trans (h s) (hnext _ _)

theorem allows_modify {f : σ → σ} (h : ∀ s, F.rel s (f s)) :
    F.Allows (modify f : StateM σ PUnit) := h

/-- What follows a change goes on from the changed state. -/
theorem rel_modify_bind {f : σ → σ} {next : PUnit → StateM σ α} (h : F.Allows (next ⟨⟩)) (s : σ) :
    F.rel (f s) ((modify f >>= next).run s).2 := h (f s)

theorem allows_get_bind {next : σ → StateM σ α} (h : ∀ s, F.rel s ((next s).run s).2) :
    F.Allows (get >>= next) := h

/-! ## Operations that may be refused -/

theorem allows_run {op : ExceptT ε (StateM σ) α} :
    F.Allows op.run ↔ ∀ s, F.rel s (runOn op s).2 := Iff.rfl

theorem allows_run_pure (a : α) : F.Allows (pure a : ExceptT ε (StateM σ) α).run :=
  fun s => F.refl s

theorem allows_run_throw (e : ε) : F.Allows (throw e : ExceptT ε (StateM σ) α).run :=
  fun s => F.refl s

/-- A refusal ends a sequence, whatever was to follow. -/
theorem allows_run_throw_bind (e : ε) (next : α → ExceptT ε (StateM σ) β) :
    F.Allows (throw e >>= next).run := fun s => F.refl s

/-- What an operation was seen to do is within its frame. -/
theorem Allows.rel_of_runOn {op : ExceptT ε (StateM σ) α} (h : F.Allows op.run) {s s' : σ}
    {answer : Except ε α} (hs : runOn op s = (answer, s')) : F.rel s s' := by
  have hrel := h s
  rwa [show (op.run.run s).2 = s' from congrArg Prod.snd hs] at hrel

theorem allows_run_bind {op : ExceptT ε (StateM σ) α} {next : α → ExceptT ε (StateM σ) β}
    (h : F.Allows op.run) (hnext : ∀ a, F.Allows (next a).run) :
    F.Allows (op >>= next).run := by
  rw [allows_run]
  intro s
  rcases hs : runOn op s with ⟨e | a, s'⟩
  · rw [runOn_bind_error hs]
    exact h.rel_of_runOn hs
  · rw [runOn_bind_ok hs]
    exact F.trans (h.rel_of_runOn hs) (hnext a s')

theorem allows_run_mapM {f : α → ExceptT ε (StateM σ) β} (h : ∀ a, F.Allows (f a).run)
    (as : List α) : F.Allows (as.mapM f).run := by
  induction as with
  | nil => exact allows_run_pure []
  | cons a rest ih =>
    rw [List.mapM_cons]
    refine allows_run_bind (h a) fun b => ?_
    exact allows_run_bind ih fun bs => allows_run_pure (b :: bs)

theorem allows_run_get_bind {next : σ → ExceptT ε (StateM σ) α}
    (h : ∀ s, F.rel s (runOn (next s) s).2) : F.Allows (get >>= next).run := h

theorem allows_run_lift {op : StateM σ α} (h : F.Allows op) :
    F.Allows (liftM op : ExceptT ε (StateM σ) α).run := h

/-- Several parts, each of which answers wherever the parts before it, which
    stay within a frame, may have led. -/
theorem runOn_mapM {f : α → ExceptT ε (StateM σ) β} {s : σ} {as : List α} {bs : List β}
    (hf : ∀ a, F.Allows (f a).run)
    (h : List.Forall₂ (fun a b => ∀ s', F.rel s s' → (runOn (f a) s').1 = .ok b) as bs) :
    (runOn (as.mapM f) s).1 = .ok bs := by
  suffices hfrom : ∀ s', F.rel s s' → (runOn (as.mapM f) s').1 = .ok bs from hfrom s (F.refl s)
  induction h with
  | nil => exact fun _ _ => rfl
  | @cons a b _ _ hfirst _ ih =>
    intro s' hs'
    have hrest := ih (runOn (f a) s').2 (F.trans hs' (hf a s'))
    rw [List.mapM_cons, runOn_bind_ok (Prod.ext (hfirst s' hs') rfl),
      runOn_bind_ok (Prod.ext hrest rfl)]
    rfl

end Frame

end PoolWatch
