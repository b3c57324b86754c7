import PoolWatch.Proofs.Watcher.Clock
import PoolWatch.Proofs.Watcher.Replay

/-! # What an envelope is answered with

    An envelope that is no duplicate is answered with the number of a trade,
    or with none.  Nothing but the swap at its end adds to the history, and
    that adds one trade at most, so the answer should tell whether one was
    recorded.

    There is one way out of which this does not hold.  A swap of the bot is
    recorded before it is drawn on its ledger.  When the ledger does not read,
    the handling is broken off with the trade already in the history: the
    answer is none, and the row stays.  `process_answer` says that this is
    the only exception. -/

namespace PoolWatch.Watcher

open Tracking (statusOf ledgerOf)

/-! ## Trades that are not drawn -/

/-- A trade that counts for its venue, whose ledger does not read. -/
def IsUndrawn (s : Setup) (store : Store) (t : Trade) : Prop :=
  countsFor s.bot t.venue t = true ∧ ∃ err, ledgerOf store t.venue = .error err

section Undrawn

variable {s : Setup} {e : Envelope} {facts : Facts} {site : SwapSite} {w : State}

/-- An own swap is refused by the trackers when it would be drawn on a ledger
    that does not read. -/
theorem drawOn_eq_error_iff :
    (∃ err, (drawOn s e site w).1 = .error err) ↔
      (e.isFailed = false ∧ e.poolSideDelta site.mint ≠ 0) ∧
        ∃ err, ledgerOf w.registry.store site.venue = .error err := by
  unfold drawOn
  by_cases hgo : (!e.isFailed) = true ∧ (e.poolSideDelta site.mint).natAbs ≠ 0
  · obtain ⟨hsucceeded, hmoved⟩ := hgo
    have hfailed : e.isFailed = false := by simpa using hsucceeded
    rw [hsucceeded, Tracking.runOn_handleSelfSwap_of_pos s.policy _ hmoved]
    have hne := Int.natAbs_ne_zero.1 hmoved
    -- the ledger is looked at once, and only that may be refused
    cases hledger : ledgerOf w.registry.store site.venue with
    | error err => exact ⟨fun _ => ⟨⟨hfailed, hne⟩, err, rfl⟩, fun _ => ⟨err, rfl⟩⟩
    | ok ledger =>
      refine ⟨fun herror => ?_, fun h => nomatch h.2⟩
      obtain ⟨err, herr⟩ := herror
      cases ledger with
      | none => cases herr
      | some l =>
        dsimp only at herr
        split at herr <;> cases herr
  · rw [Tracking.runOn_handleSelfSwap_skipped s.policy _ hgo]
    refine ⟨fun herror => ?_, fun h => ?_⟩
    · obtain ⟨err, herr⟩ := herror
      cases herr
    · obtain ⟨⟨hfailed, hne⟩, -⟩ := h
      exact absurd ⟨by simp [hfailed], Int.natAbs_ne_zero.2 hne⟩ hgo

theorem isUndrawn_own (hown : site.signer = s.bot) (seconds : Int64) :
    IsUndrawn s w.registry.store (tradeOf e facts site seconds) ↔
      ∃ err, (drawOn s e site w).1 = .error err := by
  rw [drawOn_eq_error_iff]
  exact and_congr (countsFor_tradeOf hown seconds) Iff.rfl

/-- Someone else's trade is drawn on no ledger. -/
theorem not_isUndrawn_other {store : Store} {t : Trade} (hother : t.signer ≠ s.bot) :
    ¬ IsUndrawn s store t := by
  rintro ⟨hcounts, -⟩
  obtain ⟨-, hsigner, -⟩ := of_decide_eq_true hcounts
  exact hother hsigner

/-- Whether a trade is drawn depends on the ledgers alone. -/
theorem IsUndrawn.congr {store store' : Store} {t : Trade}
    (h : ledgerOf store' = ledgerOf store) :
    IsUndrawn s store' t ↔ IsUndrawn s store t := by
  unfold IsUndrawn
  rw [h]

end Undrawn

/-! ## What came of a swap -/

/-- What the swap of an envelope did to the history, and what is answered.  A
    trade is dated with the wall clock at the end. -/
inductive Outcome (s : Setup) (e : Envelope) (facts : Facts) (w w' : State) :
    Option Nat → Prop where
  | passed : w'.trades = w.trades → Outcome s e facts w w' none
  | recorded (site : SwapSite) :
      w'.trades = w.trades.withTrade (tradeOf e facts site (s.wallSeconds w')) →
      ¬ IsUndrawn s w.registry.store (tradeOf e facts site (s.wallSeconds w')) →
      Outcome s e facts w w' (some (w.trades.lastId + 1))
  | undrawn (site : SwapSite) :
      w'.trades = w.trades.withTrade (tradeOf e facts site (s.wallSeconds w')) →
      IsUndrawn s w.registry.store (tradeOf e facts site (s.wallSeconds w')) →
      Outcome s e facts w w' none

section Outcome

variable {s : Setup} {e : Envelope} {facts : Facts} {w w₁ w' : State} {answer : Option Nat}

/-- What was done before in keeping with the books makes no difference. -/
theorem Outcome.of_keepsBooks (h : Outcome s e facts w₁ w' answer)
    (hkeeps : keepsBooks.rel w w₁) : Outcome s e facts w w' answer := by
  obtain ⟨htrades, hledgers⟩ := Prod.mk.inj hkeeps
  cases h with
  | passed hpassed => exact .passed (hpassed.trans htrades)
  | recorded site htrade hdrawn =>
    rw [htrades] at htrade ⊢
    rw [IsUndrawn.congr hledgers] at hdrawn
    exact .recorded site htrade hdrawn
  | undrawn site htrade hundrawn =>
    rw [htrades] at htrade
    rw [IsUndrawn.congr hledgers] at hundrawn
    exact .undrawn site htrade hundrawn

/-- The handling of a swap, wherever it is broken off. -/
theorem handleSwap_outcome (s : Setup) (e : Envelope) (ix : CompiledInstruction) (facts : Facts)
    (w : State) : Outcome s e facts w (runOn (handleSwap s e ix facts) w).2
      (runOn (handleSwap s e ix facts) w).1.toOption.join := by
  rcases hsite : runOn (swapSite e ix) w with ⟨err | site, w₁⟩
  · have hkeeps := keepsBooks_of_looks ((allows_swapSite e ix).rel_of_runOn hsite)
    rw [runOn_handleSwap_error s facts hsite]
    exact .of_keepsBooks (.passed rfl) hkeeps
  -- what was looked up so far is in no book
  have hkeeps := keepsBooks_of_looks ((allows_swapSite e ix).rel_of_runOn hsite)
  refine .of_keepsBooks ?_ hkeeps
  cases hstatus : statusOf w₁.registry.store site.venue with
  | error err =>
    rw [runOn_handleSwap_unread s facts hsite hstatus]
    exact .passed rfl
  | ok status =>
    by_cases hown : site.signer = s.bot
    · rw [runOn_handleSwap_own s facts hsite hstatus hown]
      have hundrawn :
          IsUndrawn s w₁.registry.store (tradeOf e facts site (s.wallSeconds w₁)) ↔
            ∃ err, (drawOn s e site w₁).1 = .error err := isUndrawn_own hown _
      -- the trade is in the history by now, whatever the trackers answer
      cases hanswer : (drawOn s e site w₁).1 with
      | error err => exact .undrawn site rfl (hundrawn.2 ⟨err, hanswer⟩)
      | ok outcome =>
        refine .recorded site rfl fun h => ?_
        obtain ⟨err, herr⟩ := hundrawn.1 h
        rw [hanswer] at herr
        cases herr
    · cases htracked : status.isTracked with
      | false =>
        rw [runOn_handleSwap_passed s facts hsite hstatus htracked hown]
        exact .passed rfl
      | true =>
        rw [runOn_handleSwap_other s facts hsite hstatus htracked hown]
        let w₂ := w₁.withTrade (tradeOf e facts site (s.wallSeconds w₁))
        let shown := Trigger.otherSwap site.keys (.ofPoolDelta (e.poolSideDelta site.mint))
          (e.poolSideDelta site.mint) site.signer e.signature
        let w₃ := ((fire s shown).run w₂).2
        -- to be shown to the strategy takes no time
        have hclock : s.wallSeconds w₃ = s.wallSeconds w₁ :=
          wallSeconds_congr s ((covers_keepsTime s).fire shown w₂)
        have htrades : w₃.trades =
            w₁.trades.withTrade (tradeOf e facts site (s.wallSeconds w₃)) := by
          rw [hclock]
          exact (fire_records s shown w₂).1
        exact .recorded site htrades (not_isUndrawn_other hown)

/-- To be told of takes no time. -/
theorem Outcome.warned (h : Outcome s e facts w w' answer) (signature what : String)
    (err : HandlingError) : Outcome s e facts w (w'.warned signature what err) answer := by
  cases h with
  | passed hpassed => exact .passed hpassed
  | recorded site htrade hdrawn => exact .recorded site htrade hdrawn
  | undrawn site htrade hundrawn => exact .undrawn site htrade hundrawn

/-- An attempt that is broken off answers nothing, and keeps what was done. -/
theorem run_attempt_outcome {op : WatchM (Option Nat)}
    (h : Outcome s e facts w (runOn op w).2 (runOn op w).1.toOption.join)
    (signature what : String) :
    Outcome s e facts w ((attempt signature what op).run w).2
      ((attempt signature what op).run w).1.join := by
  rcases hop : runOn op w with ⟨err | a, w'⟩
  · rw [hop] at h
    rw [run_attempt_error signature what hop]
    exact h.warned signature what err
  · rw [hop] at h
    rw [run_attempt_ok signature what hop]
    exact h

/-- The swap at the end, if there is one, ends in one of the three ways. -/
theorem conclude_outcome (s : Setup) (e : Envelope) (scan : Scan) (w : State) :
    Outcome s e scan.facts w ((conclude s e scan).run w).2 ((conclude s e scan).run w).1 := by
  cases hswap : scan.swap with
  | none =>
    rw [run_conclude_none hswap]
    exact .passed rfl
  | some ix =>
    rw [run_conclude_some hswap]
    exact run_attempt_outcome (handleSwap_outcome s e ix _ _) _ _

/-- An envelope that is no duplicate: its instructions leave the books alone,
    and then there is its swap. -/
theorem process_outcome (hnew : w.seen.remembers w.time e.signature = false) :
    ∃ tradeId w', (process s e).run w = (.done tradeId, w') ∧
      Outcome s e (gathered e).facts w w' tradeId := by
  have hkeeps : keepsBooks.rel w (scanned s e w) := by
    have harrival : keepsBooks.rel w (noteArrival s e w) := rfl
    exact keepsBooks.trans harrival ((covers_keepsBooks s).handleEach e e.instructions _)
  have houtcome := conclude_outcome s e (gathered e) (scanned s e w)
  exact ⟨_, _, run_process_new s e hnew, houtcome.of_keepsBooks hkeeps⟩

/-- What a swap leaves in the history: nothing, or one row of its facts. -/
theorem Outcome.trades (h : Outcome s e facts w w' answer) :
    w'.trades = w.trades ∨ ∃ site,
      w'.trades = w.trades.withTrade (tradeOf e facts site (s.wallSeconds w')) := by
  cases h with
  | passed htrades => exact .inl htrades
  | recorded site htrades => exact .inr ⟨site, htrades⟩
  | undrawn site htrades => exact .inr ⟨site, htrades⟩

end Outcome

/-! ## The answer -/

/-- The rows are of one trade that was not drawn. -/
def LeftUndrawn (s : Setup) (store : Store) (rows : List Row) : Prop :=
  ∃ t, rows.mapM Row.trade = .ok [t] ∧ IsUndrawn s store t

section Answer

variable {s : Setup} {e : Envelope} {w : State}

theorem leftUndrawn_row {t : Trade} (ht : t.Fits) (store : Store) (id : Nat) :
    LeftUndrawn s store [t.row id] ↔ IsUndrawn s store t := by
  have hread : [t.row id].mapM Row.trade = .ok [t] := by
    rw [List.mapM_cons, ht.trade_row]
    rfl
  unfold LeftUndrawn
  rw [hread]
  constructor
  · rintro ⟨t', heq, hundrawn⟩
    obtain rfl : t = t' := List.head_eq_of_cons_eq (Except.ok.inj heq)
    exact hundrawn
  · exact fun hundrawn => ⟨t, rfl, hundrawn⟩

/-- An envelope that is no duplicate appends one row at most.  It is answered
    with the number of the row, and with none when there is no row, but for
    one exception: none is answered as well when the row is of an own swap
    whose ledger does not read. -/
theorem process_answer (s : Setup) (e : Envelope) (w : State)
    (hnew : w.seen.remembers w.time e.signature = false) :
    ∃ tradeId w' appended, (process s e).run w = (.done tradeId, w') ∧
      w'.trades.rows = appended ++ w.trades.rows ∧ appended.length ≤ 1 ∧
      (∀ id, tradeId = some id ↔
        appended.map Row.id = [id] ∧ ¬ LeftUndrawn s w.registry.store appended) ∧
      (tradeId = none ↔ appended = [] ∨ LeftUndrawn s w.registry.store appended) := by
  obtain ⟨tradeId, w', hprocess, houtcome⟩ := process_outcome (s := s) hnew
  let taken := fun site => tradeOf e (gathered e).facts site (s.wallSeconds w')
  have hleft : ∀ site, LeftUndrawn s w.registry.store [(taken site).row (w.trades.lastId + 1)] ↔
      IsUndrawn s w.registry.store (taken site) :=
    fun site => leftUndrawn_row (tradeOf_fits ..) _ _
  cases houtcome with
  | passed htrades =>
    refine ⟨none, w', [], hprocess, congrArg TradeHistory.rows htrades, Nat.zero_le 1, ?_, ?_⟩
    · exact fun id => ⟨nofun, fun h => nomatch h.1⟩
    · exact iff_of_true rfl (.inl rfl)
  | recorded site htrades hdrawn =>
    have hdrawn := mt (hleft site).1 hdrawn
    refine ⟨_, w', [(taken site).row (w.trades.lastId + 1)], hprocess,
      congrArg TradeHistory.rows htrades, Nat.le_refl 1, ?_, ?_⟩
    · intro id
      -- the number that is answered is the number of the row
      have hid : some (w.trades.lastId + 1) = some id ↔ [w.trades.lastId + 1] = [id] := by
        rw [Option.some.injEq, List.cons.injEq, and_iff_left rfl]
      exact hid.trans (and_iff_left hdrawn).symm
    · exact iff_of_false nofun fun h => h.elim nofun hdrawn
  | undrawn site htrades hundrawn =>
    have hundrawn := (hleft site).2 hundrawn
    refine ⟨none, w', [(taken site).row (w.trades.lastId + 1)], hprocess,
      congrArg TradeHistory.rows htrades, Nat.le_refl 1, ?_, ?_⟩
    · exact fun id => ⟨nofun, fun h => absurd hundrawn h.2⟩
    · exact iff_of_true rfl (.inr hundrawn)

end Answer

/-! ## A trade that is not told of -/

namespace SaleSample

/-- A registry that tracks the venue, with a text under its ledger that is none. -/
def garbled : Registry :=
  (tracking Address.orderBookProgram).withRecord venue.text .ledger (.text "")

theorem ledgerOf_garbled : ledgerOf garbled.store venue = .error (.store .malformed) := by
  have hread : garbled.store.record? Tracking.Ledger.ofJson? venue.text .ledger =
      .error .malformed :=
    Store.record?_putRecord_malformed _ _ _ (Json.plain_text "") rfl
  rw [Tracking.ledgerOf_eq, hread]
  rfl

/-- What is under the ledger makes no difference to the pool and the status. -/
theorem onlyWrites_garbled :
    (Registry.onlyWrites .ledger).rel (tracking Address.orderBookProgram) garbled :=
  Registry.onlyWrites_withRecord ..

theorem knowsPool_garbled : garbled.KnowsPool venue (order Address.orderBookProgram).keys := by
  have hfield : Store.Field.poolKeys ≠ .ledger := nofun
  exact (knowsPool_tracking _).of_onlyWrites hfield onlyWrites_garbled

theorem statusOf_garbled : statusOf garbled.store venue = .ok .both := by
  rw [← statusOf_tracking Address.orderBookProgram]
  exact Tracking.statusOf_congr (onlyWrites_garbled.2 venue.text .tracker nofun)

/-- The sale is in the history, and none is answered. -/
theorem sale_unanswered : ∃ m w' row,
    (process setup (executed m)).run (start garbled) = (.done none, w') ∧
      w'.trades.rows = [row] ∧ row.id = 1 := by
  obtain ⟨m, hm⟩ := exists_sale Address.orderBookProgram
  obtain ⟨tradeId, w', appended, hprocess, hrows, -, -, hnone⟩ :=
    process_answer setup (executed m) (start garbled) rfl
  obtain ⟨hown, -⟩ := process_sent (w := start garbled) (e := executed m) (s := setup) rfl hm
    ⟨rfl, rfl, rfl⟩ nofun knowsPool_garbled rfl statusOf_garbled (mint_order _)
  obtain ⟨facts, seconds, htrade⟩ := (hown ((signer_readParties rfl ..).trans (if_pos rfl))).trade
  rw [hprocess] at htrade
  let site : SwapSite := ⟨venue, setup.bot, (order Address.orderBookProgram).keys, .ofNat 3⟩
  let t := tradeOf (executed m) facts site seconds
  have happended : appended = [t.row 1] := by
    have hboth := hrows.symm.trans (congrArg TradeHistory.rows htrade)
    exact (List.append_nil appended).symm.trans hboth
  -- the sale succeeded and moved something, so it would be drawn on the ledger
  have hown : site.signer = setup.bot := rfl
  have hmoved : (executed m).poolSideDelta site.mint ≠ 0 := by
    rw [poolSideDelta_executed]
    decide
  have hcounts : countsFor setup.bot venue t = true :=
    (countsFor_tradeOf hown seconds).2 ⟨rfl, hmoved⟩
  have hundrawn : LeftUndrawn setup garbled.store appended := by
    rw [happended, leftUndrawn_row (tradeOf_fits ..)]
    exact ⟨hcounts, _, ledgerOf_garbled⟩
  obtain rfl := hnone.2 (.inr hundrawn)
  refine ⟨m, w', t.row 1, hprocess, ?_, rfl⟩
  rw [hrows, happended]
  rfl

end SaleSample

end PoolWatch.Watcher
