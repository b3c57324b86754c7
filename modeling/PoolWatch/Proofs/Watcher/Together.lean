import PoolWatch.Proofs.Tandem
import PoolWatch.Proofs.Watcher.Scan

/-! # Two watchers at the same envelope

    To compare what is made of an envelope in two states, both watchers are
    followed through its handling at once.  What has to be said of a tandem
    is what becomes of the parts that handling is made of (`CoversBoth`): the
    looks at the chain, the operations on the trackers of some venues, the
    record of a trade, and what is shown and told.  From there on it is the
    same for every tandem. -/

namespace PoolWatch.Watcher

/-- A tandem in which every part of the handling of envelopes goes together
    with itself, whatever the time is in each of the two.  Trackers are those
    of some venues, and the rows of a trade have numbers that correspond. -/
structure CoversBoth (T : Tandem State) (venues : Key → Prop) (number : Nat → Nat → Prop)
    (s : Setup) : Prop where
  resolve : ∀ e ix position, T.Permits Eq
    (onRegistry .resolve (Registry.resolve e ix position))
    (onRegistry .resolve (Registry.resolve e ix position))
  poolKeys : ∀ venue, T.Permits Eq (onRegistry .pool (Registry.poolKeys venue))
    (onRegistry .pool (Registry.poolKeys venue))
  balance : ∀ keys, T.Permits Eq (onRegistry .pool (Registry.nativeBalance keys))
    (onRegistry .pool (Registry.nativeBalance keys))
  status : ∀ venue, venues venue → T.Permits Eq (onTrackers (Tracking.status venue))
    (onTrackers (Tracking.status venue))
  opening : ∀ venue now now', venues venue → T.Permits Eq
    (onTrackers (Tracking.handleOpening now venue))
    (onTrackers (Tracking.handleOpening now' venue))
  withdraw : ∀ venue reserve now now', venues venue → T.Permits Eq
    (onTrackers (Tracking.handleWithdraw s.policy now venue reserve))
    (onTrackers (Tracking.handleWithdraw s.policy now' venue reserve))
  selfSwap : ∀ venue amount succeeded now now', venues venue → T.Permits Eq
    (onTrackers (Tracking.handleSelfSwap s.policy now venue amount succeeded))
    (onTrackers (Tracking.handleSelfSwap s.policy now' venue amount succeeded))
  record : ∀ e facts site seconds seconds', T.Permits number
    (record (tradeOf e facts site seconds)) (record (tradeOf e facts site seconds'))
  fire : ∀ trigger, T.Allows Eq (fire s trigger) (fire s trigger)
  tell : ∀ notice, T.Allows Eq (tell notice) (tell notice)
  wait : ∀ millis, T.Allows Eq (wait millis) (wait millis)

/-- A position of an instruction is resolved alike, and to one of some venues. -/
def ResolvesAmong (T : Tandem State) (venues : Key → Prop) (e : Envelope)
    (ix : CompiledInstruction) (position : Nat) : Prop :=
  T.Permits (fun v v' => v = v' ∧ venues v)
    (onRegistry .resolve (Registry.resolve e ix position))
    (onRegistry .resolve (Registry.resolve e ix position))

/-- The venues of an envelope, those of its openings, of its withdrawals and
    of its last swap, are found alike and are some venues. -/
structure FindsAmong (T : Tandem State) (venues : Key → Prop) (e : Envelope) : Prop where
  opening : ∀ {ix nonce time quote base}, ix ∈ e.instructions →
    e.programOf? ix = some Address.venueProgram →
    Instruction.decodeVenue ix.data = .ok (.openPool nonce time quote base) →
    ResolvesAmong T venues e ix openPoolVenue
  withdrawal : ∀ {ix amount}, ix ∈ e.instructions →
    e.programOf? ix = some Address.venueProgram →
    Instruction.decodeVenue ix.data = .ok (.withdraw amount) →
    ResolvesAmong T venues e ix withdrawVenue
  swap : ∀ {ix}, (gathered e).swap = some ix → ResolvesAmong T venues e ix swapVenue

section Together

variable {T : Tandem State} {venues : Key → Prop} {number : Nat → Nat → Prop} {s : Setup}
  {e : Envelope} {ix : CompiledInstruction}

/-! ## Openings and withdrawals -/

theorem CoversBoth.handleOpening (h : CoversBoth T venues number s)
    (hvenue : ResolvesAmong T venues e ix openPoolVenue) :
    T.Permits Eq (handleOpening s e ix) (handleOpening s e ix) := by
  refine Tandem.permits_bind hvenue ?_
  rintro venue _ ⟨rfl, hvenue⟩
  refine Tandem.permits_get_bind fun w w' halike => ?_
  refine Tandem.permits_bind (h.opening venue _ _ hvenue) (fun _ _ _ => ?_) w w' halike
  exact Tandem.permits_pure rfl

theorem CoversBoth.findWithdrawn (h : CoversBoth T venues number s)
    (hvenue : ResolvesAmong T venues e ix withdrawVenue) :
    T.Permits (fun x x' => x = x' ∧ venues x.venue) (findWithdrawn e ix) (findWithdrawn e ix) := by
  refine Tandem.permits_bind hvenue ?_
  rintro venue _ ⟨rfl, hvenue⟩
  refine Tandem.permits_bind (h.poolKeys venue) ?_
  rintro keys _ rfl
  exact Tandem.permits_pure ⟨rfl, hvenue⟩

theorem CoversBoth.settleWithdraw (h : CoversBoth T venues number s) {x : Withdrawn}
    (hvenue : venues x.venue) :
    T.Permits Eq (settleWithdraw s e x) (settleWithdraw s e x) := by
  refine Tandem.permits_bind (h.balance x.keys) ?_
  rintro reserve _ rfl
  by_cases hfloor : reserve ≤ s.policy.floor
  · rw [if_pos hfloor]
    refine Tandem.permits_get_bind fun w w' halike => ?_
    refine Tandem.permits_bind (h.withdraw x.venue reserve _ _ hvenue) ?_ w w' halike
    rintro next _ rfl
    by_cases hnext : next.isSome = true
    · rw [if_pos hnext]
      exact Tandem.permits_lift (h.fire _)
    · rw [if_neg hnext]
      exact Tandem.permits_pure rfl
  · rw [if_neg hfloor]
    exact Tandem.permits_pure rfl

theorem CoversBoth.handleWithdraw (h : CoversBoth T venues number s)
    (hvenue : ResolvesAmong T venues e ix withdrawVenue) :
    T.Permits Eq (handleWithdraw s e ix) (handleWithdraw s e ix) := by
  refine Tandem.permits_bind (h.findWithdrawn hvenue) ?_
  rintro x _ ⟨rfl, hvenue⟩
  refine Tandem.permits_bind (Tandem.permits_lift (h.wait s.policy.settle)) fun _ _ _ => ?_
  exact h.settleWithdraw hvenue

/-! ## Swaps -/

/-- The site of a swap is the same, on one of the venues. -/
theorem CoversBoth.swapSite (h : CoversBoth T venues number s)
    (hvenue : ResolvesAmong T venues e ix swapVenue) :
    T.Permits (fun x x' => x = x' ∧ venues x.venue) (swapSite e ix) (swapSite e ix) := by
  refine Tandem.permits_bind hvenue ?_
  rintro venue _ ⟨rfl, hvenue⟩
  refine Tandem.permits_bind (h.resolve e ix _) ?_
  rintro program _ rfl
  dsimp only
  split
  · exact Tandem.permits_throw_bind _ _ _
  refine Tandem.permits_bind (h.resolve e ix _) fun _ _ _ => ?_
  refine Tandem.permits_bind (h.resolve e ix _) fun _ _ _ => ?_
  refine Tandem.permits_bind (h.resolve e ix _) ?_
  rintro signer _ rfl
  refine Tandem.permits_bind (h.poolKeys venue) ?_
  rintro keys _ rfl
  unfold Registry.mint
  cases keys.mint? with
  | none => exact Tandem.permits_throw_bind _ _ _
  | some found => exact Tandem.permits_pure ⟨rfl, hvenue⟩

/-- A swap is recorded in both or in neither. -/
theorem CoversBoth.handleSwap (h : CoversBoth T venues number s) (facts : Facts)
    (hvenue : ResolvesAmong T venues e ix swapVenue) :
    T.Permits (Option.Rel number) (handleSwap s e ix facts) (handleSwap s e ix facts) := by
  refine Tandem.permits_bind (h.swapSite hvenue) ?_
  rintro site _ ⟨rfl, hvenue⟩
  refine Tandem.permits_bind (h.status site.venue hvenue) ?_
  rintro status _ rfl
  dsimp only
  split
  · exact Tandem.permits_pure .none
  -- the two records are of different times, and what follows does not look at them
  refine Tandem.permits_get_bind fun w w' halike => ?_
  refine Tandem.permits_bind (h.record e facts site _ _) (fun id id' hid => ?_) w w' halike
  split
  · refine Tandem.permits_get_bind fun w w' halike => ?_
    refine Tandem.permits_bind (h.selfSwap site.venue _ _ _ _ hvenue) (fun _ _ _ => ?_) w w' halike
    exact Tandem.permits_pure (.some hid)
  · refine Tandem.permits_bind (Tandem.permits_lift (h.fire _)) fun _ _ _ => ?_
    exact Tandem.permits_pure (.some hid)

/-! ## Attempts -/

/-- Attempts at what goes together are broken off in both or in neither. -/
theorem CoversBoth.attempt {α β : Type} {R : α → β → Prop} (h : CoversBoth T venues number s)
    (signature what : String) {op : WatchM α} {op' : WatchM β} (hop : T.Permits R op op') :
    T.Allows (Option.Rel R) (attempt signature what op) (attempt signature what op') := by
  refine Tandem.allows_bind hop fun x y hxy => ?_
  cases hxy with
  | ok hab => exact Tandem.allows_pure (.some hab)
  | error err => exact Tandem.allows_bind (h.tell _) fun _ _ _ => Tandem.allows_pure .none

/-- An attempt whose answer is not looked at. -/
theorem CoversBoth.discard {α : Type} (h : CoversBoth T venues number s)
    (signature what : String) {op : WatchM α} (hop : T.Permits Eq op op) :
    T.Allows Eq (Functor.discard (Watcher.attempt signature what op) : StateM State Unit)
      (Functor.discard (Watcher.attempt signature what op)) := by
  intro w w' halike
  have hattempt := h.attempt signature what hop w w' halike
  exact ⟨rfl, hattempt.alike, hattempt.steps⟩

/-! ## Envelopes -/

theorem CoversBoth.handleInstruction (h : CoversBoth T venues number s)
    (hfinds : FindsAmong T venues e) (hix : ix ∈ e.instructions) :
    T.Allows Eq (handleInstruction s e ix) (handleInstruction s e ix) := by
  unfold Watcher.handleInstruction
  by_cases hprogram : e.programOf? ix = some Address.venueProgram
  · rw [if_pos hprogram]
    cases hdecode : Instruction.decodeVenue ix.data with
    | error err => exact Tandem.allows_pure rfl
    | ok decoded =>
      cases decoded with
      | openPool =>
        exact h.discard _ _ (h.handleOpening (hfinds.opening hix hprogram hdecode))
      | withdraw =>
        exact h.discard _ _ (h.handleWithdraw (hfinds.withdrawal hix hprogram hdecode))
      | _ => exact Tandem.allows_pure rfl
  · rw [if_neg hprogram]
    exact Tandem.allows_pure rfl

/-- The instructions of an envelope are handled together, each from where the
    ones before it led. -/
theorem CoversBoth.handleEach (h : CoversBoth T venues number s) (hfinds : FindsAmong T venues e)
    {instructions : List CompiledInstruction} (hsub : ∀ ix ∈ instructions, ix ∈ e.instructions)
    {w w' : State} (halike : T.alike w w') :
    T.alike (handleEach s e w instructions) (handleEach s e w' instructions) ∧
      T.steps.rel (w, w') (handleEach s e w instructions, handleEach s e w' instructions) := by
  induction instructions generalizing w w' with
  | nil => exact ⟨halike, T.steps.refl _⟩
  | cons ix rest ih =>
    rw [handleEach_cons, handleEach_cons]
    have hfirst := h.handleInstruction hfinds (hsub ix List.mem_cons_self) w w' halike
    obtain ⟨hrest, hsteps⟩ := ih (fun ix hix => hsub ix (List.mem_cons_of_mem _ hix)) hfirst.alike
    exact ⟨hrest, T.steps.trans hfirst.steps hsteps⟩

theorem CoversBoth.conclude (h : CoversBoth T venues number s) (hfinds : FindsAmong T venues e) :
    T.Allows (Option.Rel number) (conclude s e (gathered e)) (conclude s e (gathered e)) := by
  unfold Watcher.conclude
  cases hswap : (gathered e).swap with
  | none => exact Tandem.allows_pure .none
  | some ix =>
    have hhandle := h.handleSwap (gathered e).facts (hfinds.swap hswap)
    refine Tandem.allows_bind (h.attempt e.signature "swap" hhandle) fun x y hxy => ?_
    -- the answer of an attempt that was broken off is none as well
    cases hxy with
    | none => exact Tandem.allows_pure .none
    | some hanswer => exact Tandem.allows_pure hanswer

end Together

end PoolWatch.Watcher
