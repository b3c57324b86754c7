import PoolWatch.Proofs.Registry.Operations
import PoolWatch.Proofs.Tracking.Operations
import PoolWatch.Watcher.Process

/-! # What the watcher does beside the books

    The books are the trade history and the ledgers.  Most of what a watcher
    does leaves them alone: it looks at the chain, moves statuses on, tells
    of what went wrong and shows events to the strategy.  Only the handling
    of a swap writes to them, and the equations at the end say when it does,
    and what. -/

namespace PoolWatch.Watcher

open Tracking (statusOf ledgerOf)

/-! ## Parts of the state -/

/-- The watcher with another registry. -/
def State.withRegistry (w : State) (r : Registry) : State :=
  { w with registry := r }

/-- The watcher with another store. -/
def State.withStore (w : State) (store : Store) : State :=
  w.withRegistry { w.registry with store }

/-- The watcher with another trade history. -/
def State.withTrades (w : State) (trades : TradeHistory) : State :=
  { w with trades }

variable {ε α : Type}

theorem runOn_onRegistry (wrap : ε → HandlingError) (op : RegistryM ε α) (w : State) :
    runOn (onRegistry wrap op) w =
      ((runOn op w.registry).1.mapError wrap, w.withRegistry (runOn op w.registry).2) := rfl

theorem runOn_onTrackers (op : Tracking.TrackM α) (w : State) :
    runOn (onTrackers op) w =
      ((runOn op w.registry.store).1.mapError .tracker,
        w.withStore (runOn op w.registry.store).2) := rfl

/-! ## Frames -/

/-- The trade history and the ledgers stay. -/
def keepsBooks : Frame State :=
  Frame.ofView fun w => (w.trades, ledgerOf w.registry.store)

/-- Nothing changes but what is known of the chain. -/
def onlyLooks : Frame State where
  rel w w' := w' = w.withRegistry w'.registry ∧ w'.registry.reader = w.registry.reader ∧
    statusOf w'.registry.store = statusOf w.registry.store ∧
    ledgerOf w'.registry.store = ledgerOf w.registry.store
  refl _ := ⟨rfl, rfl, rfl, rfl⟩
  trans := by
    rintro w w' w'' ⟨h, hreader, hstatus, hledger⟩ ⟨h', hreader', hstatus', hledger'⟩
    refine ⟨?_, hreader'.trans hreader, hstatus'.trans hstatus, hledger'.trans hledger⟩
    rw [h', h]
    rfl

theorem keepsBooks_of_looks {w w' : State} (h : onlyLooks.rel w w') : keepsBooks.rel w w' := by
  obtain ⟨hrest, -, -, hledger⟩ := h
  have htrades : w'.trades = w.trades := by
    rw [hrest]
    rfl
  exact Prod.ext htrades hledger

theorem Allows.of_looks {op : StateM State α} (h : onlyLooks.Allows op) :
    keepsBooks.Allows op :=
  fun w => keepsBooks_of_looks (h w)

variable {field : Store.Field}

/-- A look that keeps keys of pools or lookup tables shows in no status and
    no ledger. -/
theorem onlyLooks_withRegistry (hfield : field = .poolKeys ∨ field = .lookupTable) (w : State)
    {r : Registry} (h : (Registry.onlyWrites field).rel w.registry r) :
    onlyLooks.rel w (w.withRegistry r) := by
  obtain ⟨hreader, hcells⟩ := h
  refine ⟨rfl, hreader, ?_, ?_⟩
  · -- statuses and ledgers are kept in fields of their own
    funext venue
    refine Tracking.statusOf_congr (hcells venue.text .tracker ?_)
    rcases hfield with rfl | rfl <;> exact nofun
  · funext venue
    refine Tracking.ledgerOf_congr (hcells venue.text .ledger ?_)
    rcases hfield with rfl | rfl <;> exact nofun

theorem allows_onRegistry (hfield : field = .poolKeys ∨ field = .lookupTable)
    (wrap : ε → HandlingError) {op : RegistryM ε α}
    (h : (Registry.onlyWrites field).Allows op.run) : onlyLooks.Allows (onRegistry wrap op).run :=
  fun w => onlyLooks_withRegistry hfield w (h w.registry)

/-- What an operation may make of the registry, it may make of the watcher's. -/
theorem allows_within {F : Frame Registry} (wrap : ε → HandlingError) {op : RegistryM ε α}
    (h : F.Allows op.run) : (F.within State.registry).Allows (onRegistry wrap op).run :=
  fun w => h w.registry

theorem allows_resolve (e : Envelope) (ix : CompiledInstruction) (position : Nat) :
    onlyLooks.Allows (onRegistry .resolve (Registry.resolve e ix position)).run :=
  allows_onRegistry (.inr rfl) _
    (Registry.allows_resolve Registry.allows_lookupTable e ix position)

theorem allows_poolKeys (venue : Key) :
    onlyLooks.Allows (onRegistry .pool (Registry.poolKeys venue)).run :=
  allows_onRegistry (.inl rfl) _ (Registry.allows_poolKeys venue)

/-- Which mint is not the native one can be seen from the keys. -/
theorem allows_mint {F : Frame State} (keys : PoolKeys) :
    F.Allows (onRegistry .pool (Registry.mint keys)).run := by
  unfold Registry.mint
  cases keys.mint? with
  | none => exact fun w => F.refl w
  | some found => exact fun w => F.refl w

theorem allows_nativeBalance (keys : PoolKeys) :
    onlyLooks.Allows (onRegistry .pool (Registry.nativeBalance keys)).run :=
  allows_onRegistry (.inl rfl) _ (Registry.Allows.of_asks (Registry.allows_nativeBalance keys))

/-! ## Openings and withdrawals -/

/-- Moving a status on leaves the ledgers alone. -/
theorem ledgerOf_withNext (now : Int64) (venue : Key) (next : Option Tracking.Status)
    (store : Store) : ledgerOf (Tracking.withNext now venue next store) = ledgerOf store := by
  funext other
  cases next with
  | none => rfl
  | some status => exact Tracking.ledgerOf_withStatus now venue other status store

/-- An operation on trackers that leaves the ledgers alone leaves the books alone. -/
theorem allows_onTrackers {op : Tracking.TrackM α}
    (h : ∀ store, ledgerOf (runOn op store).2 = ledgerOf store) :
    keepsBooks.Allows (onTrackers op).run :=
  fun w => Prod.ext rfl (h w.registry.store)

theorem allows_trackOpening (now : Int64) (venue : Key) :
    keepsBooks.Allows (onTrackers (Tracking.handleOpening now venue)).run := by
  refine allows_onTrackers fun store => ?_
  cases hstatus : statusOf store venue with
  | error e => rw [Tracking.runOn_handleOpening_error now hstatus]
  | ok current =>
    rw [Tracking.runOn_handleOpening now hstatus]
    exact ledgerOf_withNext now venue _ store

theorem allows_trackWithdraw (policy : Tracking.Policy) (now : Int64) (venue : Key)
    (reserve : UInt64) :
    keepsBooks.Allows (onTrackers (Tracking.handleWithdraw policy now venue reserve)).run := by
  refine allows_onTrackers fun store => ?_
  cases hstatus : statusOf store venue with
  | error e => rw [Tracking.runOn_handleWithdraw_error policy now reserve hstatus]
  | ok current =>
    rw [Tracking.runOn_handleWithdraw policy now reserve hstatus]
    exact ledgerOf_withNext now venue _ store

/-- Looking at a status changes nothing. -/
theorem runOn_trackStatus (venue : Key) (w : State) :
    runOn (onTrackers (Tracking.status venue)) w =
      ((statusOf w.registry.store venue).mapError .tracker, w) := by
  rw [runOn_onTrackers, Tracking.runOn_status]
  rfl

theorem allows_tell (notice : Notice) : keepsBooks.Allows (tell notice) := fun _ => rfl

theorem allows_wait (millis : Nat) : keepsBooks.Allows (wait millis) := fun _ => rfl

/-- A handling that is broken off is told of, and nothing else is done about it. -/
theorem allows_attempt {F : Frame State} (htell : ∀ notice, F.Allows (tell notice))
    (signature what : String) {op : WatchM α} (h : F.Allows op.run) :
    F.Allows (attempt signature what op) := by
  refine Frame.allows_bind h fun answer => ?_
  cases answer with
  | ok a => exact Frame.allows_pure (some a)
  | error e => exact Frame.allows_bind (htell _) fun _ => Frame.allows_pure none

/-! ## Triggers -/

/-- The trades, the store and the events that were shown stay. -/
def keepsRecords : Frame State :=
  Frame.ofView fun w => (w.trades, w.registry.store, w.fired)

theorem allows_signingHash : keepsRecords.Allows signingHash := by
  intro w
  by_cases h : w.blockhash ≠ .zero
  · have hrun : signingHash.run w = (.ok w.blockhash, w) := if_pos h
    rw [hrun]
    exact keepsRecords.refl w
  · have hrun : signingHash.run w = (w.registry.reader.blockhash w.registry.asked,
        w.withRegistry (w.registry.withAsked .blockhash)) := if_neg h
    rw [hrun]
    rfl

/-- Once an event is noted, all that is left is to ask the strategy, and to
    carry out what it wants. -/
theorem rel_fire {F : Frame State} (htell : ∀ notice, F.Allows (tell notice))
    (hhash : F.Allows signingHash)
    (hsend : ∀ executor intent blockhash, F.Allows (carryOut executor intent blockhash))
    (s : Setup) (trigger : Trigger) (w : State) :
    F.rel { w with fired := trigger :: w.fired } ((fire s trigger).run w).2 := by
  refine Frame.rel_modify_bind (f := fun w => { w with fired := trigger :: w.fired }) ?_ w
  -- what the strategy wants goes to the router, or to whoever runs the watcher
  cases s.strategy trigger with
  | none => exact Frame.allows_pure ()
  | some intent =>
    cases s.executor with
    | none => exact htell _
    | some executor =>
      refine Frame.allows_bind hhash fun answer => ?_
      cases answer with
      | error text => exact htell _
      | ok blockhash => exact hsend executor intent blockhash

/-- An event is shown to the strategy.  Whatever the strategy wants, carrying
    it out is no entry in any record. -/
theorem fire_records (s : Setup) (trigger : Trigger) (w : State) :
    ((fire s trigger).run w).2.trades = w.trades ∧
      ((fire s trigger).run w).2.registry.store = w.registry.store ∧
      ((fire s trigger).run w).2.fired = trigger :: w.fired := by
  have htell : ∀ notice, keepsRecords.Allows (tell notice) := fun _ _ => rfl
  have hsend : ∀ executor intent blockhash,
      keepsRecords.Allows (carryOut executor intent blockhash) := fun _ _ _ _ => rfl
  have hrel := rel_fire htell allows_signingHash hsend s trigger w
  obtain ⟨htrades, hrest⟩ := Prod.mk.inj hrel
  obtain ⟨hstore, hfired⟩ := Prod.mk.inj hrest
  exact ⟨htrades, hstore, hfired⟩

theorem allows_fire (s : Setup) (trigger : Trigger) : keepsBooks.Allows (fire s trigger) := by
  intro w
  obtain ⟨htrades, hstore, -⟩ := fire_records s trigger w
  exact Prod.ext htrades (congrArg ledgerOf hstore)

/-! ## Openings and withdrawals as a whole -/

/-- A frame that every part of the handling of openings and withdrawals, but
    for the waiting, stays within. -/
structure CoversActs (F : Frame State) (s : Setup) : Prop where
  resolve : ∀ e ix position,
    F.Allows (onRegistry .resolve (Registry.resolve e ix position)).run
  poolKeys : ∀ venue, F.Allows (onRegistry .pool (Registry.poolKeys venue)).run
  balance : ∀ keys, F.Allows (onRegistry .pool (Registry.nativeBalance keys)).run
  opening : ∀ now venue, F.Allows (onTrackers (Tracking.handleOpening now venue)).run
  withdraw : ∀ now venue reserve,
    F.Allows (onTrackers (Tracking.handleWithdraw s.policy now venue reserve)).run
  fire : ∀ trigger, F.Allows (fire s trigger)
  tell : ∀ notice, F.Allows (tell notice)

/-- A frame that every part stays within. -/
structure Covers (F : Frame State) (s : Setup) : Prop extends CoversActs F s where
  wait : ∀ millis, F.Allows (wait millis)

section Covers

variable {F : Frame State} {s : Setup}

theorem CoversActs.handleOpening (h : CoversActs F s) (e : Envelope) (ix : CompiledInstruction) :
    F.Allows (handleOpening s e ix).run := by
  refine Frame.allows_run_bind (h.resolve e ix _) fun venue => ?_
  refine Frame.allows_run_get_bind fun w => ?_
  exact Frame.allows_run_bind (h.opening _ venue) (fun _ => Frame.allows_run_pure _) w

theorem CoversActs.findWithdrawn (h : CoversActs F s) (e : Envelope) (ix : CompiledInstruction) :
    F.Allows (findWithdrawn e ix).run := by
  refine Frame.allows_run_bind (h.resolve e ix _) fun venue => ?_
  exact Frame.allows_run_bind (h.poolKeys venue) fun keys => Frame.allows_run_pure _

theorem CoversActs.settleWithdraw (h : CoversActs F s) (e : Envelope) (x : Withdrawn) :
    F.Allows (settleWithdraw s e x).run := by
  refine Frame.allows_run_bind (h.balance x.keys) fun reserve => ?_
  by_cases hfloor : reserve ≤ s.policy.floor
  · rw [if_pos hfloor]
    refine Frame.allows_run_get_bind fun w => ?_
    refine Frame.allows_run_bind (h.withdraw _ x.venue reserve) (fun next => ?_) w
    by_cases hnext : next.isSome = true
    · rw [if_pos hnext]
      exact Frame.allows_run_lift (h.fire _)
    · rw [if_neg hnext]
      exact Frame.allows_run_pure _
  · rw [if_neg hfloor]
    exact Frame.allows_run_pure _

theorem Covers.handleWithdraw (h : Covers F s) (e : Envelope) (ix : CompiledInstruction) :
    F.Allows (handleWithdraw s e ix).run := by
  refine Frame.allows_run_bind (h.findWithdrawn e ix) fun x => ?_
  refine Frame.allows_run_bind (Frame.allows_run_lift (h.wait _)) fun _ => ?_
  exact h.settleWithdraw e x

theorem CoversActs.attempt (h : CoversActs F s) (signature what : String) {op : WatchM α}
    (hop : F.Allows op.run) : F.Allows (attempt signature what op) :=
  allows_attempt h.tell signature what hop

end Covers

/-- Openings and withdrawals leave the books alone. -/
theorem covers_keepsBooks (s : Setup) : Covers keepsBooks s where
  resolve e ix position := Allows.of_looks (allows_resolve e ix position)
  poolKeys venue := Allows.of_looks (allows_poolKeys venue)
  balance keys := Allows.of_looks (allows_nativeBalance keys)
  opening := allows_trackOpening
  withdraw := allows_trackWithdraw s.policy
  fire := allows_fire s
  tell := allows_tell
  wait := allows_wait

end PoolWatch.Watcher
