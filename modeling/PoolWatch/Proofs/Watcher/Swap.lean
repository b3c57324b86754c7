import PoolWatch.Proofs.Trade.Rows
import PoolWatch.Proofs.Watcher.Operations

/-! # What the handling of a swap does

    First the site of the swap is looked up; this shows in no status, ledger
    or trade.  Then there are five ways to go on, one equation each: the
    site cannot be found, the status cannot be read, the venue is not
    watched, the swap is the bot's own, or it is someone else's.  Only in
    the last two is anything recorded. -/

namespace PoolWatch

/-! ## Amounts -/

namespace Envelope

/-- What a pool paid out is a signed 128-bit integer. -/
theorem poolSideDelta_bounds (e : Envelope) (mint : Key) :
    -(2 ^ 127 : Int) ≤ e.poolSideDelta mint ∧ e.poolSideDelta mint < (2 ^ 127 : Int) := by
  unfold poolSideDelta
  split
  · next pre post _ _ =>
    have hlow := Int.le_bmod (x := pre - post) (m := amountSpan) (by decide)
    have hhigh := Int.bmod_lt (x := pre - post) (m := amountSpan) (by decide)
    have hspan : ((amountSpan : Nat) : Int) = 2 ^ 128 := by decide
    omega
  · decide

end Envelope

namespace Watcher

open Tracking (statusOf ledgerOf)

theorem natAbs_le_maxAmount {amount : Int} (hlow : -(2 ^ 127 : Int) ≤ amount)
    (hhigh : amount < (2 ^ 127 : Int)) : amount.natAbs ≤ Tracking.Ledger.maxAmount := by
  have hmax : Tracking.Ledger.maxAmount = 2 ^ 128 - 1 := by decide
  omega

/-- The record of a swap always fits the table. -/
theorem tradeOf_fits (e : Envelope) (facts : Facts) (site : SwapSite) (seconds : Int64) :
    (tradeOf e facts site seconds).Fits where
  computeLimit_lt := by
    have hlimit := facts.computeLimit.toNat_lt
    show facts.computeLimit.toUInt64.toNat < 0x8000000000000000
    rw [UInt32.toNat_toUInt64]
    omega
  computePrice_lt := by
    have hprice := facts.computePrice.toNat_lt
    show facts.computePrice.toUInt64.toNat < 0x8000000000000000
    rw [UInt32.toNat_toUInt64]
    omega
  le_amount := (e.poolSideDelta_bounds site.mint).1
  amount_lt := (e.poolSideDelta_bounds site.mint).2

/-! ## The site -/

/-- Whom a swap names: where it takes from, where it puts, and who signs. -/
structure Parties where
  (source destination signer : Key)
  deriving DecidableEq

/-- Reads the venue and the parties of a swap. -/
def readSwap (e : Envelope) (ix : CompiledInstruction) : WatchM (Key × Parties) := do
  let venue ← onRegistry .resolve (Registry.resolve e ix swapVenue)
  let program ← onRegistry .resolve (Registry.resolve e ix swapMarketProgram)
  let parties := SwapParties.ofMarketProgram program
  if ix.accounts.length ≤ parties.signer then
    throw (.shortSwap venue ix.accounts.length)
  let source ← onRegistry .resolve (Registry.resolve e ix parties.source)
  let destination ← onRegistry .resolve (Registry.resolve e ix parties.destination)
  let signer ← onRegistry .resolve (Registry.resolve e ix parties.signer)
  pure (venue, ⟨source, destination, signer⟩)

/-- The site of a swap is what it names and what is known of its venue. -/
theorem swapSite_eq (e : Envelope) (ix : CompiledInstruction) :
    swapSite e ix = (do
      let (venue, parties) ← readSwap e ix
      let keys ← onRegistry .pool (Registry.poolKeys venue)
      let (mint, _) ← onRegistry .pool (Registry.mint keys)
      pure ⟨venue, parties.signer, keys, mint⟩) := by
  unfold swapSite readSwap
  simp only [bind_assoc]
  refine bind_congr fun venue => bind_congr fun program => ?_
  split
  · rfl
  · simp only [pure_bind, bind_assoc]

/-- Reading a swap does nothing but resolve addresses. -/
theorem allows_readSwap {F : Frame State} {e : Envelope} {ix : CompiledInstruction}
    (h : ∀ position, F.Allows (onRegistry .resolve (Registry.resolve e ix position)).run) :
    F.Allows (readSwap e ix).run := by
  refine Frame.allows_run_bind (h _) fun venue => ?_
  refine Frame.allows_run_bind (h _) fun program => ?_
  dsimp only
  split
  · exact Frame.allows_run_throw_bind _ _
  · refine Frame.allows_run_bind (h _) fun source => ?_
    refine Frame.allows_run_bind (h _) fun destination => ?_
    refine Frame.allows_run_bind (h _) fun signer => ?_
    exact Frame.allows_run_pure _

/-- Finding the site of a swap is a look at the chain. -/
theorem allows_swapSite (e : Envelope) (ix : CompiledInstruction) :
    onlyLooks.Allows (swapSite e ix).run := by
  rw [swapSite_eq]
  refine Frame.allows_run_bind (allows_readSwap (allows_resolve e ix)) fun (venue, parties) => ?_
  refine Frame.allows_run_bind (allows_poolKeys venue) fun keys => ?_
  refine Frame.allows_run_bind (allows_mint keys) fun found => ?_
  exact Frame.allows_run_pure _

/-! ## Frames -/

/-- A frame that every part of the handling of swaps stays within as well. -/
structure CoversSwapActs (F : Frame State) (s : Setup) : Prop extends CoversActs F s where
  record : ∀ t, F.Allows (record t).run
  selfSwap : ∀ now venue amount succeeded, F.Allows
    (onTrackers (Tracking.handleSelfSwap s.policy now venue amount succeeded)).run

/-- A frame that all that is handled stays within. -/
structure CoversSwap (F : Frame State) (s : Setup) : Prop
  extends Covers F s, CoversSwapActs F s where

section Frames

variable {F : Frame State} {s : Setup}

theorem CoversActs.swapSite (h : CoversActs F s) (e : Envelope) (ix : CompiledInstruction) :
    F.Allows (swapSite e ix).run := by
  rw [swapSite_eq]
  refine Frame.allows_run_bind (allows_readSwap (h.resolve e ix)) fun (venue, parties) => ?_
  refine Frame.allows_run_bind (h.poolKeys venue) fun keys => ?_
  refine Frame.allows_run_bind (allows_mint keys) fun found => ?_
  exact Frame.allows_run_pure _

theorem CoversSwapActs.handleSwap (h : CoversSwapActs F s) (e : Envelope) (ix : CompiledInstruction)
    (facts : Facts) : F.Allows (handleSwap s e ix facts).run := by
  have hread : ∀ venue, F.Allows (onTrackers (Tracking.status venue)).run := by
    intro venue
    rw [Frame.allows_run]
    intro w
    rw [runOn_trackStatus]
    exact F.refl w
  refine Frame.allows_run_bind (h.swapSite e ix) fun site => ?_
  refine Frame.allows_run_bind (hread site.venue) fun status => ?_
  dsimp only
  split
  · exact Frame.allows_run_pure none
  -- what is recorded is drawn on a ledger or shown to the strategy
  refine Frame.allows_run_get_bind fun w => ?_
  refine Frame.allows_run_bind (h.record _) (fun id => ?_) w
  split
  · refine Frame.allows_run_get_bind fun w => ?_
    exact Frame.allows_run_bind (h.selfSwap _ _ _ _) (fun _ => Frame.allows_run_pure _) w
  · exact Frame.allows_run_bind (Frame.allows_run_lift (h.fire _)) fun _ =>
      Frame.allows_run_pure _

end Frames

/-! ## Equations -/

/-- The watcher with one more trade in its history. -/
def State.withTrade (w : State) (t : Trade) : State :=
  w.withTrades (w.trades.withTrade t)

theorem runOn_record {t : Trade} (h : t.Fits) (w : State) :
    runOn (record t) w = (.ok (w.trades.lastId + 1), w.withTrade t) := by
  unfold record
  rw [runOn_bind_ok (runOn_get w), h.insert? w.trades]
  rfl

/-- What an own swap does to the trackers, and what they answer. -/
def drawOn (s : Setup) (e : Envelope) (site : SwapSite) (w : State) :
    Except Tracking.TrackerError Tracking.LedgerOutcome × Store :=
  runOn (Tracking.handleSelfSwap s.policy (s.wallClock w) site.venue
    (e.poolSideDelta site.mint).natAbs (!e.isFailed)) w.registry.store

/-- The ledger is opened or drawn on when the swap succeeded and moved something. -/
theorem drawOn_draws (s : Setup) (e : Envelope) {site : SwapSite} {w : State}
    {ledger : Option Tracking.Ledger} (h : ledgerOf w.registry.store site.venue = .ok ledger) :
    ledgerOf (drawOn s e site w).2 site.venue =
      .ok (if e.isFailed = false ∧ e.poolSideDelta site.mint ≠ 0 then
        Tracking.Ledger.draw s.policy.splitter ledger (e.poolSideDelta site.mint).natAbs
      else ledger) := by
  have hmoved : ((!e.isFailed) = true ∧ (e.poolSideDelta site.mint).natAbs ≠ 0) ↔
      (e.isFailed = false ∧ e.poolSideDelta site.mint ≠ 0) := by
    rw [Bool.not_eq_true', Int.natAbs_ne_zero]
  -- the amount fits a ledger, because the delta is a signed integer of 128 bits
  obtain ⟨hlow, hhigh⟩ := e.poolSideDelta_bounds site.mint
  obtain ⟨-, -, hdrawn⟩ := Tracking.handleSelfSwap_draws s.policy (s.wallClock w)
    (natAbs_le_maxAmount hlow hhigh) h
  unfold drawOn
  rw [hdrawn]
  exact congrArg Except.ok (if_congr hmoved rfl rfl)

/-- A record that was made before moves neither the clock nor the store. -/
theorem runOn_drawOn (s : Setup) (e : Envelope) (site : SwapSite) (t : Trade) (w : State) :
    runOn (onTrackers (Tracking.handleSelfSwap s.policy (s.wallClock (w.withTrade t)) site.venue
        (e.poolSideDelta site.mint).natAbs (!e.isFailed))) (w.withTrade t) =
      ((drawOn s e site w).1.mapError .tracker, (w.withTrade t).withStore (drawOn s e site w).2) :=
  rfl

section HandleSwap

variable (s : Setup) (facts : Facts) {e : Envelope} {ix : CompiledInstruction} {w w' : State}

/-- Without a site nothing is recorded. -/
theorem runOn_handleSwap_error {err : HandlingError}
    (hsite : runOn (swapSite e ix) w = (.error err, w')) :
    runOn (handleSwap s e ix facts) w = (.error err, w') :=
  runOn_bind_error hsite _

variable {site : SwapSite} (hsite : runOn (swapSite e ix) w = (.ok site, w'))

include hsite

/-- A status that does not read breaks the handling off. -/
theorem runOn_handleSwap_unread {err : Tracking.TrackerError}
    (hstatus : statusOf w'.registry.store site.venue = .error err) :
    runOn (handleSwap s e ix facts) w = (.error (.tracker err), w') := by
  have hread := runOn_trackStatus site.venue w'
  rw [hstatus] at hread
  unfold handleSwap
  rw [runOn_bind_ok hsite, runOn_bind_error hread]

variable {status : Tracking.Status}
  (hstatus : statusOf w'.registry.store site.venue = .ok status)

include hstatus

/-- A swap by someone else on a venue that is not tracked is passed over. -/
theorem runOn_handleSwap_passed (huntracked : status.isTracked = false)
    (hother : site.signer ≠ s.bot) :
    runOn (handleSwap s e ix facts) w = (.ok none, w') := by
  have hread := runOn_trackStatus site.venue w'
  rw [hstatus] at hread
  -- neither tracked nor own
  have hpass : (!status.isTracked && !decide (site.signer = s.bot)) = true := by
    simp [huntracked, hother]
  unfold handleSwap
  rw [runOn_bind_ok hsite, runOn_bind_ok hread]
  dsimp only
  rw [if_pos hpass]
  rfl

/-- An own swap is recorded, on whatever venue, and goes through the ledger. -/
theorem runOn_handleSwap_own (hown : site.signer = s.bot) :
    runOn (handleSwap s e ix facts) w =
      (((drawOn s e site w').1.mapError .tracker).map fun _ => some (w'.trades.lastId + 1),
        (w'.withTrade (tradeOf e facts site (s.wallSeconds w'))).withStore
          (drawOn s e site w').2) := by
  have hread := runOn_trackStatus site.venue w'
  rw [hstatus] at hread
  have hgo : ¬ (!status.isTracked && !decide (site.signer = s.bot)) = true := by
    simp [hown]
  have hrecord := runOn_record (tradeOf_fits e facts site (s.wallSeconds w')) w'
  have hdraw := runOn_drawOn s e site (tradeOf e facts site (s.wallSeconds w')) w'
  unfold handleSwap
  rw [runOn_bind_ok hsite, runOn_bind_ok hread]
  dsimp only
  rw [if_neg hgo, runOn_bind_ok (runOn_get w'), runOn_bind_ok hrecord, if_pos hown,
    runOn_bind_ok (runOn_get _)]
  -- the record stays, even if the ledger cannot be read
  cases hanswer : (drawOn s e site w').1 with
  | error err =>
    rw [hanswer] at hdraw
    exact runOn_bind_error hdraw _
  | ok outcome =>
    rw [hanswer] at hdraw
    exact runOn_bind_ok hdraw _

/-- Someone else's swap on a tracked venue is recorded and shown to the strategy. -/
theorem runOn_handleSwap_other (htracked : status.isTracked = true)
    (hother : site.signer ≠ s.bot) :
    runOn (handleSwap s e ix facts) w =
      (.ok (some (w'.trades.lastId + 1)),
        ((fire s (.otherSwap site.keys (.ofPoolDelta (e.poolSideDelta site.mint))
          (e.poolSideDelta site.mint) site.signer e.signature)).run
          (w'.withTrade (tradeOf e facts site (s.wallSeconds w')))).2) := by
  have hread := runOn_trackStatus site.venue w'
  rw [hstatus] at hread
  have hgo : ¬ (!status.isTracked && !decide (site.signer = s.bot)) = true := by
    simp [htracked]
  have hrecord := runOn_record (tradeOf_fits e facts site (s.wallSeconds w')) w'
  unfold handleSwap
  rw [runOn_bind_ok hsite, runOn_bind_ok hread]
  dsimp only
  rw [if_neg hgo, runOn_bind_ok (runOn_get w'), runOn_bind_ok hrecord, if_neg hother]
  rfl

end HandleSwap

end Watcher

end PoolWatch
