import PoolWatch.Proofs.Tracking.Lifecycle
import PoolWatch.Proofs.Watcher.Deeds
import PoolWatch.Proofs.Watcher.Replay

/-! # When the strategy is shown something

    Buying twice what was drained once would be a loss, so the strategy must
    be shown a drained pool only when its venue is taken up.  The status is
    what sees to this: a venue that is tracked is not taken up again until
    it was let go, by an opening or by the end of its ledger.

    What a deed can do to statuses, ledgers and the events that are shown is
    said once, in `deed_effect`.  That a shown event is rightly shown, and that
    only two kinds of deeds let a venue go, are read off it; the history in
    between two drained pools is then a walk from a tracked venue to one that
    is not. -/

namespace PoolWatch.Watcher

open Tracking (statusOf ledgerOf Sound StatusChange)

/-! ## A withdrawal that has settled -/

section Settled

variable {s : Setup} {e : Envelope} {x : Withdrawn} {w w₁ : State} {reserve : UInt64}
  (hbalance : runOn (onRegistry .pool (Registry.nativeBalance x.keys)) w = (.ok reserve, w₁))

include hbalance

theorem tellsReserve_of_balance : w.registry.TellsReserve x.keys reserve := by
  rw [runOn_onRegistry] at hbalance
  rcases hanswer : runOn (Registry.nativeBalance x.keys) w.registry with ⟨err | told, r⟩
  · rw [hanswer] at hbalance
    cases hbalance
  · rw [hanswer] at hbalance
    obtain rfl : told = reserve := Except.ok.inj (Prod.mk.inj hbalance).1
    exact Registry.tellsReserve_of_nativeBalance hanswer

/-- A pool with more than the floor is left alone. -/
theorem runOn_settleWithdraw_above (hfloor : ¬ reserve ≤ s.policy.floor) :
    runOn (settleWithdraw s e x) w = (.ok (), w₁) := by
  unfold settleWithdraw
  rw [runOn_bind_ok hbalance, if_neg hfloor]
  rfl

variable (hfloor : reserve ≤ s.policy.floor)

include hfloor

theorem runOn_settleWithdraw_unread {err : Tracking.TrackerError}
    (hstatus : statusOf w₁.registry.store x.venue = .error err) :
    runOn (settleWithdraw s e x) w = (.error (.tracker err), w₁) := by
  have hread := Tracking.runOn_handleWithdraw_error s.policy (s.wallClock w₁) reserve hstatus
  have htrack := runOn_onTrackers
    (Tracking.handleWithdraw s.policy (s.wallClock w₁) x.venue reserve) w₁
  rw [hread] at htrack
  unfold settleWithdraw
  rw [runOn_bind_ok hbalance, if_pos hfloor, runOn_bind_ok (runOn_get w₁),
    runOn_bind_error htrack]
  rfl

variable {status : Tracking.Status}
  (hstatus : statusOf w₁.registry.store x.venue = .ok status)

include hstatus

/-- A venue whose status stays is not shown. -/
theorem runOn_settleWithdraw_kept
    (hnext : Tracking.onWithdraw s.policy status reserve = none) :
    runOn (settleWithdraw s e x) w = (.ok (), w₁) := by
  have hread := Tracking.runOn_handleWithdraw s.policy (s.wallClock w₁) reserve hstatus
  have htrack := runOn_onTrackers
    (Tracking.handleWithdraw s.policy (s.wallClock w₁) x.venue reserve) w₁
  rw [hread, hnext] at htrack
  unfold settleWithdraw
  rw [runOn_bind_ok hbalance, if_pos hfloor, runOn_bind_ok (runOn_get w₁), runOn_bind_ok htrack]
  rfl

/-- A venue whose status moves on is shown as drained. -/
theorem runOn_settleWithdraw_drained {next : Tracking.Status}
    (hnext : Tracking.onWithdraw s.policy status reserve = some next) :
    runOn (settleWithdraw s e x) w =
      (.ok (), ((fire s (.drained x.keys reserve e.signature)).run
        (w₁.withStore
          (Tracking.withStatus (s.wallClock w₁) x.venue next w₁.registry.store))).2) := by
  have hread := Tracking.runOn_handleWithdraw s.policy (s.wallClock w₁) reserve hstatus
  have htrack := runOn_onTrackers
    (Tracking.handleWithdraw s.policy (s.wallClock w₁) x.venue reserve) w₁
  rw [hread, hnext] at htrack
  unfold settleWithdraw
  rw [runOn_bind_ok hbalance, if_pos hfloor, runOn_bind_ok (runOn_get w₁), runOn_bind_ok htrack]
  rfl

end Settled

/-! ## What a deed can do -/

/-- Statuses, ledgers and the events that were shown stay. -/
structure SameTracks (w w' : State) : Prop where
  status : statusOf w'.registry.store = statusOf w.registry.store
  ledger : ledgerOf w'.registry.store = ledgerOf w.registry.store
  fired : w'.fired = w.fired

theorem SameTracks.of_looks {w w' : State} (h : onlyLooks.rel w w') : SameTracks w w' := by
  obtain ⟨hrest, -, hstatus, hledger⟩ := h
  refine ⟨hstatus, hledger, ?_⟩
  rw [hrest]
  rfl

/-- The trackers handle an event, after a look at the chain at most. -/
def Handles (s : Setup) (event : Tracking.Event) (w w' : State) : Prop :=
  ∃ now w₁, SameTracks w w₁ ∧
    w'.registry.store = event.after s.policy now w₁.registry.store

/-- What a pool paid out is a number of 128 bits. -/
theorem toNat_poolSideDelta (e : Envelope) (mint : Key) :
    (BitVec.ofNat 128 (e.poolSideDelta mint).natAbs).toNat = (e.poolSideDelta mint).natAbs := by
  obtain ⟨hlow, hhigh⟩ := e.poolSideDelta_bounds mint
  rw [BitVec.toNat_ofNat, Nat.mod_eq_of_lt (by omega)]

/-- The event that someone else's swap is shown as. -/
def shownAs (e : Envelope) (site : SwapSite) : Trigger :=
  .otherSwap site.keys (.ofPoolDelta (e.poolSideDelta site.mint)) (e.poolSideDelta site.mint)
    site.signer e.signature

/-- What a deed can do to the trackers and to the events that are shown. -/
inductive Effect (s : Setup) (w w' : State) : Deed → Prop where
  | quiet {d : Deed} : SameTracks w w' → Effect s w w' d
  | opened {e : Envelope} {ix : CompiledInstruction} (venue : Key) :
      Handles s (.opening venue) w w' → w'.fired = w.fired → Effect s w w' (.openPool e ix)
  | drained {e : Envelope} {x : Withdrawn} {reserve : UInt64} {status next : Tracking.Status} :
      w.registry.TellsReserve x.keys reserve →
      statusOf w.registry.store x.venue = .ok status →
      Tracking.onWithdraw s.policy status reserve = some next →
      Handles s (.withdraw x.venue reserve) w w' →
      w'.fired = .drained x.keys reserve e.signature :: w.fired →
      Effect s w w' (.settle e x)
  | drawn {e : Envelope} {ix : CompiledInstruction} {facts : Facts} (venue : Key)
      (amount : Word128) (succeeded : Bool) :
      Handles s (.selfSwap venue amount succeeded) w w' → w'.fired = w.fired →
      Effect s w w' (.swap e ix facts)
  | shown {e : Envelope} {ix : CompiledInstruction} {facts : Facts} {site : SwapSite}
      {w₁ : State} {status : Tracking.Status} (seconds : Int64) :
      runOn (swapSite e ix) w = (.ok site, w₁) →
      site.signer ≠ s.bot →
      statusOf w.registry.store site.venue = .ok status → status.isTracked = true →
      w' = ((fire s (shownAs e site)).run
        (w₁.withTrade (tradeOf e facts site seconds))).2 →
      Effect s w w' (.swap e ix facts)

section Effects

variable {s : Setup} {w : State}

/-- An attempt leaves what it leads to, and may have something to tell. -/
theorem attempt_keeps {α : Type} (signature what : String) (op : WatchM α) (w : State) :
    ((attempt signature what op).run w).2.registry = (runOn op w).2.registry ∧
      ((attempt signature what op).run w).2.fired = (runOn op w).2.fired := by
  rcases hop : runOn op w with ⟨err | a, w'⟩
  · rw [run_attempt_error signature what hop]
    exact ⟨rfl, rfl⟩
  · rw [run_attempt_ok signature what hop]
    exact ⟨rfl, rfl⟩

theorem SameTracks.attempt {α : Type} {op : WatchM α} (h : SameTracks w (runOn op w).2)
    (signature what : String) : SameTracks w ((attempt signature what op).run w).2 := by
  obtain ⟨hregistry, hfired⟩ := attempt_keeps signature what op w
  refine ⟨?_, ?_, hfired.trans h.fired⟩
  · rw [hregistry]
    exact h.status
  · rw [hregistry]
    exact h.ledger

/-- A handling that was broken off is told of, and that is all. -/
theorem SameTracks.warned {w' : State} (h : SameTracks w w') (signature what : String)
    (err : HandlingError) : SameTracks w (w'.warned signature what err) :=
  ⟨h.status, h.ledger, h.fired⟩

theorem openPool_effect (e : Envelope) (ix : CompiledInstruction) (w : State) :
    Effect s w ((attempt e.signature "initialize2" (handleOpening s e ix)).run w).2
      (.openPool e ix) := by
  rcases hresolve : runOn (onRegistry .resolve (Registry.resolve e ix openPoolVenue)) w
    with ⟨answer, w₁⟩
  have hsame := SameTracks.of_looks ((allows_resolve e ix _).rel_of_runOn hresolve)
  cases answer with
  | error err =>
    have hrun : runOn (handleOpening s e ix) w = (.error err, w₁) := runOn_bind_error hresolve _
    rw [run_attempt_error _ _ hrun]
    exact .quiet (hsame.warned ..)
  | ok venue =>
    -- whether the status reads or not, the trackers have handled the opening
    have hrun : (runOn (handleOpening s e ix) w).2 = w₁.withStore
        (runOn (Tracking.handleOpening (s.wallClock w₁) venue) w₁.registry.store).2 := by
      unfold handleOpening
      rw [runOn_bind_ok hresolve, runOn_bind_ok (runOn_get w₁), Tracking.runOn_discard,
        runOn_onTrackers]
    obtain ⟨hregistry, hfired⟩ := attempt_keeps e.signature "initialize2" (handleOpening s e ix) w
    rw [hrun] at hregistry hfired
    refine .opened venue ⟨s.wallClock w₁, w₁, hsame, ?_⟩ (hfired.trans hsame.fired)
    rw [hregistry, Tracking.Event.after, Tracking.Event.handle, Tracking.runOn_discard]
    rfl

/-- Finding a pool is a look at the chain. -/
theorem allows_findWithdrawn (e : Envelope) (ix : CompiledInstruction) :
    onlyLooks.Allows (findWithdrawn e ix).run := by
  refine Frame.allows_run_bind (allows_resolve e ix _) fun venue => ?_
  exact Frame.allows_run_bind (allows_poolKeys venue) fun keys => Frame.allows_run_pure _

theorem settle_effect (e : Envelope) (x : Withdrawn) (w : State) :
    Effect s w ((attempt e.signature "withdraw" (settleWithdraw s e x)).run w).2
      (.settle e x) := by
  rcases hbalance : runOn (onRegistry .pool (Registry.nativeBalance x.keys)) w with ⟨answer, w₁⟩
  have hsame := SameTracks.of_looks ((allows_nativeBalance x.keys).rel_of_runOn hbalance)
  cases answer with
  | error err =>
    have hrun : runOn (settleWithdraw s e x) w = (.error err, w₁) := runOn_bind_error hbalance _
    rw [run_attempt_error _ _ hrun]
    exact .quiet (hsame.warned ..)
  | ok reserve =>
    -- above the floor, or with no change of status, there is nothing to show
    by_cases hfloor : reserve ≤ s.policy.floor
    · cases hstatus : statusOf w₁.registry.store x.venue with
      | error err =>
        rw [run_attempt_error _ _ (runOn_settleWithdraw_unread hbalance hfloor hstatus)]
        exact .quiet (hsame.warned ..)
      | ok status =>
        cases hnext : Tracking.onWithdraw s.policy status reserve with
        | none =>
          rw [run_attempt_ok _ _ (runOn_settleWithdraw_kept hbalance hfloor hstatus hnext)]
          exact .quiet hsame
        | some next =>
          rw [run_attempt_ok _ _ (runOn_settleWithdraw_drained hbalance hfloor hstatus hnext)]
          obtain ⟨-, hstore, hfired⟩ := fire_records s (.drained x.keys reserve e.signature)
            (w₁.withStore (Tracking.withStatus (s.wallClock w₁) x.venue next w₁.registry.store))
          refine .drained (tellsReserve_of_balance hbalance)
            ((congrFun hsame.status _).symm.trans hstatus) hnext ⟨s.wallClock w₁, w₁, hsame, ?_⟩
            (hfired.trans (congrArg _ hsame.fired))
          rw [hstore, Tracking.Event.after, Tracking.Event.handle, Tracking.runOn_discard,
            Tracking.runOn_handleWithdraw _ _ _ hstatus, hnext]
          rfl
    · rw [run_attempt_ok _ _ (runOn_settleWithdraw_above hbalance hfloor)]
      exact .quiet hsame

theorem swap_effect (e : Envelope) (ix : CompiledInstruction) (facts : Facts) (w : State) :
    Effect s w ((attempt e.signature "swap" (handleSwap s e ix facts)).run w).2
      (.swap e ix facts) := by
  rcases hsite : runOn (swapSite e ix) w with ⟨answer, w₁⟩
  have hsame := SameTracks.of_looks ((allows_swapSite e ix).rel_of_runOn hsite)
  cases answer with
  | error err =>
    rw [run_attempt_error _ _ (runOn_handleSwap_error s facts hsite)]
    exact .quiet (hsame.warned ..)
  | ok site =>
    cases hstatus : statusOf w₁.registry.store site.venue with
    | error err =>
      rw [run_attempt_error _ _ (runOn_handleSwap_unread s facts hsite hstatus)]
      exact .quiet (hsame.warned ..)
    | ok status =>
      by_cases hown : site.signer = s.bot
      · have hrun := runOn_handleSwap_own s facts hsite hstatus hown
        obtain ⟨hregistry, hfired⟩ := attempt_keeps e.signature "swap" (handleSwap s e ix facts) w
        rw [hrun] at hregistry hfired
        refine .drawn site.venue (BitVec.ofNat 128 (e.poolSideDelta site.mint).natAbs)
          (!e.isFailed) ⟨s.wallClock w₁, w₁, hsame, ?_⟩ (hfired.trans hsame.fired)
        rw [hregistry, Tracking.Event.after, Tracking.Event.handle, Tracking.runOn_discard,
          toNat_poolSideDelta]
        rfl
      -- someone else's swap counts where the venue is tracked
      · cases htracked : status.isTracked with
        | false =>
          rw [run_attempt_ok _ _ (runOn_handleSwap_passed s facts hsite hstatus htracked hown)]
          exact .quiet hsame
        | true =>
          rw [run_attempt_ok _ _ (runOn_handleSwap_other s facts hsite hstatus htracked hown)]
          exact .shown (s.wallSeconds w₁) hsite hown
            ((congrFun hsame.status _).symm.trans hstatus) htracked rfl

/-- What a deed can do. -/
theorem deed_effect (d : Deed) (w : State) : Effect s w (d.after s w) d := by
  cases d with
  | arrive e => exact .quiet ⟨rfl, rfl, rfl⟩
  | openPool e ix => exact openPool_effect e ix w
  | find e ix =>
    exact .quiet ((SameTracks.of_looks (allows_findWithdrawn e ix w)).attempt _ _)
  | pause millis => exact .quiet ⟨rfl, rfl, rfl⟩
  | settle e x => exact settle_effect e x w
  | swap e ix facts => exact swap_effect e ix facts w

end Effects

/-! ## Order -/

/-- Keys are kept under their own venues, and every venue is in order. -/
structure InOrder (s : Setup) (w : State) : Prop where
  names : w.registry.NamesPools
  sound : ∀ venue, Sound s.policy w.registry.store venue

section Order

variable {s : Setup} {w w' : State} {d : Deed} {event : Tracking.Event} {venue : Key}

theorem inOrder_start (hstore : w.registry.store = .empty) : InOrder s w where
  names := Registry.namesPools_empty hstore
  sound venue := by
    rw [hstore]
    exact ⟨.notTracked, none, Tracking.statusOf_empty venue, Tracking.ledgerOf_empty venue, nofun⟩

theorem SameTracks.sound (h : SameTracks w w')
    (hsound : ∀ venue, Sound s.policy w.registry.store venue) (venue : Key) :
    Sound s.policy w'.registry.store venue := by
  unfold Sound
  rw [h.status, h.ledger]
  exact hsound venue

/-- What an event makes of its own venue. -/
theorem Handles.self (h : Handles s event w w') {status : Tracking.Status}
    {ledger : Option Tracking.Ledger}
    (hstatus : statusOf w.registry.store event.venue = .ok status)
    (hledger : ledgerOf w.registry.store event.venue = .ok ledger) :
    statusOf w'.registry.store event.venue = .ok (event.effect s.policy status ledger).1 ∧
      ledgerOf w'.registry.store event.venue = .ok (event.effect s.policy status ledger).2 := by
  obtain ⟨now, w₁, hsame, hstore⟩ := h
  rw [hstore]
  exact (Tracking.after_self now event ((congrFun hsame.status _).trans hstatus)
    ((congrFun hsame.ledger _).trans hledger)).2

/-- An event shows in no other venue. -/
theorem Handles.of_ne (h : Handles s event w w') (hvenue : venue ≠ event.venue) :
    statusOf w'.registry.store venue = statusOf w.registry.store venue := by
  obtain ⟨now, w₁, hsame, hstore⟩ := h
  rw [hstore, (Tracking.after_of_ne now hvenue).1, hsame.status]

/-- A status changes in one of the ways in which an event may change it. -/
theorem Handles.change (h : Handles s event w w') {status : Tracking.Status}
    {ledger : Option Tracking.Ledger}
    (hstatus : statusOf w.registry.store venue = .ok status)
    (hledger : ledgerOf w.registry.store venue = .ok ledger)
    (hne : statusOf w'.registry.store venue ≠ .ok status) :
    ∃ status' ledger', statusOf w'.registry.store venue = .ok status' ∧
      ledgerOf w'.registry.store venue = .ok ledger' ∧
      StatusChange s.policy event (status, ledger) (status', ledger') := by
  by_cases hvenue : venue = event.venue
  · subst hvenue
    obtain ⟨hstatus', hledger'⟩ := h.self hstatus hledger
    refine ⟨_, _, hstatus', hledger', Tracking.statusChange_effect s.policy event status ledger ?_⟩
    exact fun hsame => hne (hstatus'.trans (congrArg Except.ok hsame))
  · exact absurd ((h.of_ne hvenue).trans hstatus) hne

theorem Handles.sound (hmode : s.policy.withdrawMode.isTracked = true)
    (h : Handles s event w w') (hsound : ∀ venue, Sound s.policy w.registry.store venue) (venue : Key) :
    Sound s.policy w'.registry.store venue := by
  have hmode' : s.policy.withdrawMode ≠ .notTracked := by
    intro hgone
    rw [hgone] at hmode
    cases hmode
  obtain ⟨now, w₁, hsame, hstore⟩ := h
  rw [hstore]
  exact Tracking.sound_after hmode' now event (hsame.sound hsound) venue

/-- Someone else's swap is recorded and shown, and does nothing else. -/
theorem shown_records {e : Envelope} {ix : CompiledInstruction} {site : SwapSite} {w₁ : State}
    (hsite : runOn (swapSite e ix) w = (.ok site, w₁)) (t : Trade) (trigger : Trigger) :
    statusOf ((fire s trigger).run (w₁.withTrade t)).2.registry.store =
        statusOf w.registry.store ∧
      ledgerOf ((fire s trigger).run (w₁.withTrade t)).2.registry.store =
        ledgerOf w.registry.store ∧
      ((fire s trigger).run (w₁.withTrade t)).2.fired = trigger :: w.fired := by
  have hsame := SameTracks.of_looks ((allows_swapSite e ix).rel_of_runOn hsite)
  obtain ⟨-, hstore, hfired⟩ := fire_records s trigger (w₁.withTrade t)
  rw [hstore, hfired]
  exact ⟨hsame.status, hsame.ledger, congrArg _ hsame.fired⟩

theorem Effect.sound (hmode : s.policy.withdrawMode.isTracked = true) (h : Effect s w w' d)
    (hsound : ∀ venue, Sound s.policy w.registry.store venue) (venue : Key) :
    Sound s.policy w'.registry.store venue := by
  cases h with
  | quiet hsame => exact hsame.sound hsound venue
  | opened _ hhandles _ => exact hhandles.sound hmode hsound venue
  | drained _ _ _ hhandles _ => exact hhandles.sound hmode hsound venue
  | drawn _ _ _ hhandles _ => exact hhandles.sound hmode hsound venue
  | shown seconds hsite _ _ _ hw' =>
    obtain ⟨hstatus, hledger, -⟩ := shown_records (s := s) hsite _ _
    rw [hw']
    unfold Sound
    rw [hstatus, hledger]
    exact hsound venue

/-- A deed keeps things in order, if withdrawals can only track. -/
theorem InOrder.after (hmode : s.policy.withdrawMode.isTracked = true) (h : InOrder s w) (d : Deed) :
    InOrder s (d.after s w) where
  names := names_after d w h.names
  sound := (deed_effect d w).sound hmode h.sound

theorem InOrder.afterAll (hmode : s.policy.withdrawMode.isTracked = true) (deeds : List Deed)
    {w : State} (h : InOrder s w) : InOrder s (afterAll s w deeds) := by
  induction deeds generalizing w with
  | nil => exact h
  | cons d rest ih => exact ih (h.after hmode d)

end Order

/-! ## What is shown is rightly shown -/

/-- A venue is tracked. -/
def IsTracked (w : State) (venue : Key) : Prop :=
  ∃ status, statusOf w.registry.store venue = .ok status ∧ status.isTracked = true

/-- Between two states a venue that was not tracked, or paused, is taken up. -/
def TakesUp (w w' : State) (venue : Key) : Prop :=
  (statusOf w.registry.store venue = .ok .notTracked ∨
    statusOf w.registry.store venue = .ok .paused) ∧ IsTracked w' venue

/-- An event that a deed rightly shows.  A drained pool was observed at the
    floor or below, and its venue is taken up by the deed.  A swap was by
    someone else, on a venue that was tracked, and is in the history by the
    time that it is shown. -/
inductive RightlyShows (s : Setup) (w : State) : Deed → Trigger → Prop where
  | drained {e : Envelope} {x : Withdrawn} {reserve : UInt64} :
      TakesUp w ((Deed.settle e x).after s w) x.keys.id →
      reserve ≤ s.policy.floor → w.registry.TellsReserve x.keys reserve →
      RightlyShows s w (.settle e x) (.drained x.keys reserve e.signature)
  | otherSwap {e : Envelope} {ix : CompiledInstruction} {facts : Facts} {site : SwapSite}
      {w₁ : State} {action : TradeAction} {t : Trade} :
      runOn (swapSite e ix) w = (.ok site, w₁) → w₁.trades = w.trades →
      IsTracked w site.keys.id → site.signer ≠ s.bot →
      t.venue = site.keys.id → t.signature = e.signature → t.signer = site.signer →
      (Deed.swap e ix facts).after s w =
        ((fire s (.otherSwap site.keys action t.amount site.signer e.signature)).run
          (w₁.withTrade t)).2 →
      RightlyShows s w (.swap e ix facts)
        (.otherSwap site.keys action t.amount site.signer e.signature)

/-- A deed shows nothing, or one event, and rightly. -/
def ShowsOnlyRightly (s : Setup) (w : State) (d : Deed) : Prop :=
  (d.after s w).fired = w.fired ∨
    ∃ trigger, (d.after s w).fired = trigger :: w.fired ∧ RightlyShows s w d trigger

section Shown

variable {s : Setup} {w : State} {d : Deed} {venue : Key}

theorem keys_of_swapSite {e : Envelope} {ix : CompiledInstruction} {site : SwapSite} {w' : State}
    (hnames : w.registry.NamesPools) (h : runOn (swapSite e ix) w = (.ok site, w')) :
    site.keys.id = site.venue := by
  rw [swapSite_eq] at h
  obtain ⟨⟨venue, parties⟩, w₁, hread, h⟩ := runOn_bind_eq_ok h
  obtain ⟨keys, w₂, hkeys, h⟩ := runOn_bind_eq_ok h
  obtain ⟨⟨mint, nativeIsBase⟩, w₃, hmint, h⟩ := runOn_bind_eq_ok h
  obtain rfl := Except.ok.inj (Prod.mk.inj h).1
  have hnames₁ : w₁.registry.NamesPools :=
    (allows_readSwap (names_resolve e ix)).rel_of_runOn hread hnames
  exact keys_of_onRegistry hnames₁ hkeys

theorem showsOnlyRightly (hmode : s.policy.withdrawMode.isTracked = true) (h : InOrder s w)
    (hfits : d.Fits) : ShowsOnlyRightly s w d := by
  unfold ShowsOnlyRightly
  have heffect := deed_effect (s := s) d w
  generalize hw' : d.after s w = w' at heffect
  cases heffect with
  | quiet hsame => exact .inl hsame.fired
  | opened _ _ hfired => exact .inl hfired
  | drawn _ _ _ _ hfired => exact .inl hfired
  | @drained e x reserve status next htells hstatus hnext hhandles hfired =>
    obtain ⟨hfloor, hways⟩ := Tracking.onWithdraw_eq_some hnext
    refine .inr ⟨_, hfired, .drained ?_ hfloor htells⟩
    have hid : x.keys.id = x.venue := hfits
    obtain ⟨_, ledger, -, hledger, -⟩ := h.sound x.venue
    have hafter := (hhandles.self hstatus hledger).1
    rw [Tracking.Event.effect_withdraw, hnext] at hafter
    rw [hid, hw']
    -- a paused venue is resumed, and one that was not tracked gets the policy's status
    rcases hways with ⟨rfl, rfl⟩ | ⟨rfl, rfl⟩
    · exact ⟨.inr hstatus, _, hafter, rfl⟩
    · exact ⟨.inl hstatus, _, hafter, hmode⟩
  | @shown e ix facts site w₁ status seconds hsite hother hstatus htracked hafter =>
    have hid := keys_of_swapSite h.names hsite
    have hlooks := (allows_swapSite e ix).rel_of_runOn hsite
    have htrades : w₁.trades = w.trades := by
      rw [hlooks.1]
      rfl
    obtain ⟨-, -, hfired⟩ := shown_records (s := s) hsite (tradeOf e facts site seconds)
      (shownAs e site)
    refine .inr ⟨shownAs e site, hafter ▸ hfired, .otherSwap (t := tradeOf e facts site seconds)
      hsite htrades ⟨status, hid ▸ hstatus, htracked⟩ hother hid.symm rfl rfl ?_⟩
    rw [hw', hafter]
    rfl

/-! ## Venues that are let go -/

/-- A tracked venue that is let go by a deed: an opening pauses it, or an own
    swap uses its ledger up. -/
inductive LetsGo (s : Setup) (w : State) (venue : Key) : Deed → Prop where
  | paused {e : Envelope} {ix : CompiledInstruction} :
      IsTracked w venue →
      statusOf ((Deed.openPool e ix).after s w).registry.store venue = .ok .paused →
      LetsGo s w venue (.openPool e ix)
  | exhausted {e : Envelope} {ix : CompiledInstruction} {facts : Facts} {l : Tracking.Ledger} :
      IsTracked w venue → ledgerOf w.registry.store venue = .ok (some l) →
      ledgerOf ((Deed.swap e ix facts).after s w).registry.store venue = .ok none →
      statusOf ((Deed.swap e ix facts).after s w).registry.store venue = .ok .notTracked →
      LetsGo s w venue (.swap e ix facts)

/-- There is no other way for a tracked venue to be no longer tracked. -/
theorem letsGo_of_deed (h : InOrder s w) (htracked : IsTracked w venue)
    (hgone : ¬ IsTracked (d.after s w) venue) : LetsGo s w venue d := by
  have heffect := deed_effect (s := s) d w
  obtain ⟨status, hstatus, hwas⟩ := id htracked
  obtain ⟨_, ledger, -, hledger, -⟩ := h.sound venue
  have hne : statusOf (d.after s w).registry.store venue ≠ .ok status :=
    fun hsame => hgone ⟨status, hsame, hwas⟩
  generalize hw' : d.after s w = w' at heffect hgone hne
  cases heffect with
  | quiet hsame => exact absurd ((congrFun hsame.status venue).trans hstatus) hne
  | shown seconds hsite _ _ _ hafter =>
    obtain ⟨hsame, -⟩ := shown_records (s := s) hsite _ _
    rw [hafter] at hne
    exact absurd ((congrFun hsame venue).trans hstatus) hne
  | opened _ hhandles _ =>
    obtain ⟨status', ledger', hstatus', -, hchange⟩ := hhandles.change hstatus hledger hne
    cases hchange with
    | paused _ => exact .paused htracked (hw' ▸ hstatus')
  | drained _ _ _ hhandles _ =>
    -- a withdrawal changes no status that is tracked
    obtain ⟨status', ledger', -, -, hchange⟩ := hhandles.change hstatus hledger hne
    cases hchange with
    | resumed _ => cases hwas
    | takenUp _ => cases hwas
  | drawn _ _ _ hhandles _ =>
    obtain ⟨status', ledger', hstatus', hledger', hchange⟩ := hhandles.change hstatus hledger hne
    cases hchange with
    | ledgerOpened _ => exact absurd ⟨_, hstatus', rfl⟩ hgone
    | ledgerExhausted _ => exact .exhausted htracked hledger (hw' ▸ hledger') (hw' ▸ hstatus')

/-- Somewhere between a state where a venue is tracked and one where it is
    not, it is let go. -/
theorem letsGo_between (hmode : s.policy.withdrawMode.isTracked = true) (deeds : List Deed)
    (h : InOrder s w) (htracked : IsTracked w venue)
    (hgone : ¬ IsTracked (afterAll s w deeds) venue) :
    ∃ earlier d later, deeds = earlier ++ d :: later ∧
      LetsGo s (afterAll s w earlier) venue d := by
  -- the first deed that lets go, from the front
  induction deeds generalizing w with
  | nil => exact absurd htracked hgone
  | cons d rest ih =>
    by_cases hstill : IsTracked (d.after s w) venue
    · obtain ⟨earlier, d', later, rfl, hgo⟩ := ih (h.after hmode d) hstill hgone
      exact ⟨d :: earlier, d', later, rfl, hgo⟩
    · exact ⟨[], d, rest, rfl, letsGo_of_deed h htracked hstill⟩

end Shown

/-! ## Histories -/

/-- A deed shows the venue as drained. -/
def ShowsDrained (s : Setup) (w : State) (venue : Key) (d : Deed) : Prop :=
  ∃ keys reserve signature, keys.id = venue ∧
    (d.after s w).fired = .drained keys reserve signature :: w.fired

section Histories

variable {s : Setup} {w : State} {d : Deed} {venue : Key}

/-- A venue that is shown as drained is taken up. -/
theorem ShowsDrained.takesUp (hmode : s.policy.withdrawMode.isTracked = true) (h : InOrder s w)
    (hfits : d.Fits) (hshows : ShowsDrained s w venue d) : TakesUp w (d.after s w) venue := by
  obtain ⟨keys, reserve, signature, rfl, hfired⟩ := hshows
  rcases showsOnlyRightly hmode h hfits with hnothing | ⟨trigger, hshown, hrightly⟩
  · exact absurd (hfired.symm.trans hnothing) (List.cons_ne_self _ _)
  · obtain ⟨rfl, -⟩ := List.cons.inj (hshown.symm.trans hfired)
    cases hrightly with
    | drained htakes _ _ => exact htakes

theorem TakesUp.not_tracked {w' : State} (h : TakesUp w w' venue) : ¬ IsTracked w venue := by
  rintro ⟨status, hstatus, htracked⟩
  rcases h.1 with hbefore | hbefore
  · obtain rfl := Except.ok.inj (hbefore.symm.trans hstatus)
    cases htracked
  · obtain rfl := Except.ok.inj (hbefore.symm.trans hstatus)
    cases htracked

/-- Deeds that show events rightly only, and between two of them that show a
    venue as drained, one that lets it go. -/
structure IsDisciplined (s : Setup) (w : State) (deeds : List Deed) : Prop where
  rightly : ∀ earlier d later, deeds = earlier ++ d :: later →
    ShowsOnlyRightly s (afterAll s w earlier) d
  once : ∀ earlier d between d' later venue, deeds = earlier ++ d :: (between ++ d' :: later) →
    ShowsDrained s (afterAll s w earlier) venue d →
    ShowsDrained s (afterAll s w (earlier ++ d :: between)) venue d' →
    ∃ before d'' after, between = before ++ d'' :: after ∧
      LetsGo s (afterAll s w (earlier ++ d :: before)) venue d''

/-- Any deeds that fit together are disciplined, whatever envelopes they are
    of and however these take turns. -/
theorem isDisciplined_of_fits (hmode : s.policy.withdrawMode.isTracked = true)
    (h : InOrder s w) {deeds : List Deed} (hfits : ∀ d ∈ deeds, d.Fits) :
    IsDisciplined s w deeds where
  rightly := by
    rintro earlier d later rfl
    exact showsOnlyRightly hmode (h.afterAll hmode earlier) (hfits d (by simp))
  once := by
    rintro earlier d between d' later venue rfl hfirst hsecond
    have horder := h.afterAll hmode earlier
    have htracked : IsTracked (d.after s (afterAll s w earlier)) venue :=
      (hfirst.takesUp hmode horder (hfits d (by simp))).2
    -- the second time the venue is taken up, so it is not tracked by then
    have hagain := hsecond.takesUp hmode (h.afterAll hmode _) (hfits d' (by simp))
    rw [afterAll_append, afterAll_cons] at hagain
    obtain ⟨before, d'', after, hsplit, hgo⟩ :=
      letsGo_between hmode between (horder.after hmode d) htracked hagain.not_tracked
    refine ⟨before, d'', after, hsplit, ?_⟩
    rw [afterAll_append, afterAll_cons]
    exact hgo

end Histories

/-! ## Watching -/

/-- The deeds that some envelopes, one after the other, and pauses between
    them are made of, and what they lead to. -/
inductive Watches (s : Setup) (w₀ : State) : List Deed → State → Prop where
  | start : Watches s w₀ [] w₀
  | process {deeds : List Deed} {w : State} (e : Envelope) :
      Watches s w₀ deeds w →
      Watches s w₀ (deeds ++ deedsOf s e w) ((Watcher.process s e).run w).2
  | pause {deeds : List Deed} {w : State} (millis : Nat) :
      Watches s w₀ deeds w → Watches s w₀ (deeds ++ [.pause millis]) ((wait millis).run w).2

section Watching

variable {s : Setup} {w₀ w : State} {deeds : List Deed}

theorem Watches.after (h : Watches s w₀ deeds w) : w = afterAll s w₀ deeds := by
  induction h with
  | start => rfl
  | process e _ ih => rw [afterAll_append, ← ih, process_deeds]
  | pause millis _ ih =>
    rw [afterAll_append, ← ih]
    rfl

theorem Watches.fits (hnames : w₀.registry.NamesPools) (h : Watches s w₀ deeds w) :
    ∀ d ∈ deeds, d.Fits := by
  induction h with
  | start => exact List.forall_mem_nil _
  | @process deeds w e hbefore ih =>
    -- the names have lasted up to here
    have hnames' : w.registry.NamesPools := by
      rw [hbefore.after]
      exact names_afterAll deeds w₀ hnames
    intro d hd
    rcases List.mem_append.1 hd with hearlier | hnew
    · exact ih d hearlier
    · exact fits_deedsOf hnames' d hnew
  | pause millis _ ih =>
    intro d hd
    rcases List.mem_append.1 hd with hearlier | hpause
    · exact ih d hearlier
    · obtain rfl := List.mem_singleton.1 hpause
      trivial

/-- A watcher that starts without records is disciplined, whatever it is
    given.  A pool is shown as drained only by a deed that takes its venue up,
    with a reserve at the floor or below; between two times there is an
    opening that paused the venue, or an own swap that used its ledger up.
    A swap is shown only when it is someone else's, on a tracked venue, and
    in the history. -/
theorem watches_disciplined
    (hmode : s.policy.withdrawMode = .triggerOnly ∨ s.policy.withdrawMode = .both)
    (hempty : w₀.registry.store = .empty) (h : Watches s w₀ deeds w) :
    w = afterAll s w₀ deeds ∧ IsDisciplined s w₀ deeds := by
  have hmode' : s.policy.withdrawMode.isTracked = true := by
    rcases hmode with hm | hm <;> rw [hm] <;> rfl
  have horder : InOrder s w₀ := inOrder_start hempty
  exact ⟨h.after, isDisciplined_of_fits hmode' horder (h.fits horder.names)⟩

end Watching

/-! ## A pool that is drained -/

namespace SaleSample

/-- A withdrawal from the venue. -/
def withdrawing : CompiledInstruction := ⟨0, [0, 1], [Instruction.withdrawTag]⟩

/-- The withdrawal, in an envelope of its own. -/
def withdrawal : Envelope :=
  { Envelope.empty with
    accountKeys := [Address.venueProgram, venue], instructions := [withdrawing] }

def withdrawn : Withdrawn := ⟨venue, (order Address.orderBookProgram).keys⟩

/-- The deeds until the withdrawal has settled. -/
def settling : List Deed :=
  [.arrive withdrawal, .find withdrawal withdrawing, .pause setup.policy.settle]

theorem runOn_findWithdrawn_watching : ∃ w,
    runOn (findWithdrawn withdrawal withdrawing) (noteArrival setup withdrawal watching) =
      (.ok withdrawn, w) := by
  let w := noteArrival setup withdrawal watching
  have hresolve : runOn (onRegistry .resolve
      (Registry.resolve withdrawal withdrawing withdrawVenue)) w = (.ok venue, w) := rfl
  have hknown : (runOn (Registry.poolKeys venue) w.registry).1 = .ok withdrawn.keys :=
    knowsPool_watching.poolKeys
  have hkeys : runOn (onRegistry .pool (Registry.poolKeys venue)) w =
      (.ok withdrawn.keys, w.withRegistry (runOn (Registry.poolKeys venue) w.registry).2) := by
    rw [runOn_onRegistry, hknown]
    rfl
  refine ⟨w.withRegistry (runOn (Registry.poolKeys venue) w.registry).2, ?_⟩
  unfold findWithdrawn
  rw [runOn_bind_ok hresolve, runOn_bind_ok hkeys]
  rfl

theorem deedsOf_withdrawal :
    deedsOf setup withdrawal watching = settling ++ [.settle withdrawal withdrawn] := by
  obtain ⟨w, hfind⟩ := runOn_findWithdrawn_watching
  have hdeeds : withdrawalDeeds setup withdrawal withdrawing
      (noteArrival setup withdrawal watching) =
        [.find withdrawal withdrawing, .pause setup.policy.settle,
          .settle withdrawal withdrawn] := by
    unfold withdrawalDeeds
    rw [hfind]
  have hscan : scanDeeds setup withdrawal (noteArrival setup withdrawal watching)
      withdrawal.instructions =
        withdrawalDeeds setup withdrawal withdrawing (noteArrival setup withdrawal watching) :=
    List.append_nil _
  have hdeedsOf : deedsOf setup withdrawal watching =
      .arrive withdrawal :: scanDeeds setup withdrawal (noteArrival setup withdrawal watching)
        withdrawal.instructions ++ [] := rfl
  rw [hdeedsOf, hscan, hdeeds]
  rfl

/-- The node tells of an empty vault, so a venue that was not tracked is shown
    as drained. -/
theorem showsDrained_withdrawal {s : Setup} (hpolicy : s.policy = setup.policy) {w : State}
    (hreader : w.registry.reader = node)
    (hstatus : statusOf w.registry.store venue = .ok .notTracked) :
    ShowsDrained s w venue (.settle withdrawal withdrawn) := by
  have hvault : withdrawn.keys.nativeVault? = some withdrawn.keys.baseVault :=
    congrArg _ (mint_order Address.orderBookProgram)
  have htold : w.registry.reader.balance w.registry.asked withdrawn.keys.baseVault = .ok 0 := by
    rw [hreader]
    rfl
  have hbalance : runOn (onRegistry .pool (Registry.nativeBalance withdrawn.keys)) w =
      (.ok 0, w.withRegistry (w.registry.withAsked (.balance withdrawn.keys.baseVault))) := by
    rw [runOn_onRegistry, Registry.runOn_nativeBalance_some hvault, htold]
    rfl
  have hfloor : (0 : UInt64) ≤ s.policy.floor := by
    rw [hpolicy]
    show (0 : UInt64) ≤ Address.lamportsPerUnit
    decide
  have hnext : Tracking.onWithdraw s.policy .notTracked 0 = some .triggerOnly := by
    rw [hpolicy]
    exact if_neg (UInt64.not_lt.2 (hpolicy ▸ hfloor))
  have hrun := runOn_settleWithdraw_drained (e := withdrawal) hbalance hfloor hstatus hnext
  refine ⟨withdrawn.keys, 0, withdrawal.signature, rfl, ?_⟩
  show ((attempt withdrawal.signature "withdraw" (settleWithdraw s withdrawal withdrawn)).run
    w).2.fired = _
  rw [run_attempt_ok _ _ hrun]
  exact (fire_records ..).2.2

theorem showsDrained_settling :
    ShowsDrained setup (afterAll setup watching settling) venue (.settle withdrawal withdrawn) := by
  obtain ⟨w, hfind⟩ := runOn_findWithdrawn_watching
  obtain ⟨-, hreader, hstatuses, -⟩ :=
    (allows_findWithdrawn withdrawal withdrawing).rel_of_runOn hfind
  have hsettling : afterAll setup watching settling = ((wait setup.policy.settle).run w).2 := by
    show ((wait setup.policy.settle).run ((attempt withdrawal.signature "withdraw"
      (findWithdrawn withdrawal withdrawing)).run (noteArrival setup withdrawal watching)).2).2 = _
    rw [run_attempt_ok _ _ hfind]
  rw [hsettling]
  -- to find the pool and to wait are no change of status
  refine showsDrained_withdrawal rfl hreader ?_
  exact (congrFun hstatuses venue).trans (Tracking.statusOf_empty venue)

/-- A withdrawal that empties a vault is shown, and its venue is taken up. -/
theorem withdrawal_shown : ∃ w,
    Watches setup watching (settling ++ [.settle withdrawal withdrawn]) w ∧
      ShowsDrained setup (afterAll setup watching settling) venue (.settle withdrawal withdrawn) ∧
      TakesUp (afterAll setup watching settling) w venue := by
  have hwatches : Watches setup watching (settling ++ [.settle withdrawal withdrawn])
      ((process setup withdrawal).run watching).2 := by
    rw [← deedsOf_withdrawal]
    exact .process withdrawal .start
  obtain ⟨hafter, hdisciplined⟩ := watches_disciplined (.inl rfl) rfl hwatches
  refine ⟨_, hwatches, showsDrained_settling, ?_⟩
  rw [hafter, afterAll_append]
  obtain ⟨keys, reserve, signature, hid, hfired⟩ := showsDrained_settling
  -- something is shown, so it is rightly shown
  rcases hdisciplined.rightly settling _ [] rfl with hnothing | ⟨trigger, hshown, hrightly⟩
  · exact absurd (hfired.symm.trans hnothing) (List.cons_ne_self _ _)
  · obtain ⟨rfl, -⟩ := List.cons.inj (hshown.symm.trans hfired)
    cases hrightly with
    | drained htakes _ _ => exact htakes

end SaleSample

end PoolWatch.Watcher
