import PoolWatch.Proofs.Watcher.ComesBack

/-! # The trade history replays to the ledgers

    A swap of the bot is recorded in one place and then drawn on a ledger in
    another.  Neither is ever compared with the other, and the handling may
    be broken off in many places.  Still the history tells the ledgers:
    start from none, go through the bot's swaps of a venue that succeeded
    and moved something, in the order of their numbers, and open or draw on
    the ledger with each.

    The relation between the two is `Booked`.  Whatever leaves the books
    alone keeps it, and the handling of a swap extends the history by at
    most the one trade that the ledger was drawn on for. -/

namespace PoolWatch.Watcher

open Tracking (statusOf ledgerOf Ledger)

/-! ## Replaying -/

/-- Whether a trade is one that the ledger of a venue is drawn on for. -/
def countsFor (bot venue : Key) (t : Trade) : Bool :=
  t.venue = venue ∧ t.signer = bot ∧ t.status = .success ∧ t.amount ≠ 0

/-- The ledger of a venue that a history, oldest trade first, leads to. -/
def replay (splitter : UInt64) (bot venue : Key) (history : List Trade) : Option Ledger :=
  (history.filter (countsFor bot venue)).foldl
    (fun ledger t => Ledger.draw splitter ledger t.amount.natAbs) none

section Replay

variable {splitter : UInt64} {bot venue : Key} {history : List Trade} {t : Trade}

theorem replay_append_of_counts (h : countsFor bot venue t = true) :
    replay splitter bot venue (history ++ [t]) =
      Ledger.draw splitter (replay splitter bot venue history) t.amount.natAbs := by
  unfold replay
  rw [List.filter_append, List.filter_cons_of_pos h, List.foldl_append]
  rfl

theorem replay_append_of_not_counts (h : countsFor bot venue t = false) :
    replay splitter bot venue (history ++ [t]) = replay splitter bot venue history := by
  unfold replay
  rw [List.filter_append, List.filter_cons_of_neg (by simp [h]), List.filter_nil,
    List.append_nil]

end Replay

/-! ## The relation -/

/-- The rows read as a history, are numbered in its order, and the history
    tells every ledger. -/
structure Booked (s : Setup) (w : State) (history : List Trade) : Prop where
  rows : w.trades.rows.reverse.mapM Row.trade = .ok history
  ids : (w.trades.rows.map Row.id).Pairwise (· > ·)
  ids_le : ∀ r ∈ w.trades.rows, r.id ≤ w.trades.lastId
  ledgers : ∀ venue, ledgerOf w.registry.store venue =
    .ok (replay s.policy.splitter s.bot venue history)

/-- The books are in order. -/
def InBooks (s : Setup) (w : State) : Prop :=
  ∃ history, Booked s w history

section Booked

variable {s : Setup} {w w' : State} {history : List Trade}

theorem Booked.of_keepsBooks (h : Booked s w history) (hkeeps : keepsBooks.rel w w') :
    Booked s w' history := by
  obtain ⟨htrades, hledger⟩ := Prod.mk.inj hkeeps
  refine ⟨?_, ?_, ?_, ?_⟩
  · rw [htrades]
    exact h.rows
  · rw [htrades]
    exact h.ids
  · rw [htrades]
    exact h.ids_le
  · rw [hledger]
    exact h.ledgers

theorem booked_start (hstore : w.registry.store = .empty) (htrades : w.trades = .empty) :
    Booked s w [] := by
  refine ⟨?_, ?_, ?_, ?_⟩
  · rw [htrades]
    rfl
  · rw [htrades]
    exact .nil
  · rw [htrades]
    exact nofun
  · intro venue
    rw [hstore]
    exact Tracking.ledgerOf_empty venue

/-- One more trade, and ledgers that it leads to. -/
theorem Booked.withTrade (h : Booked s w history) {t : Trade} (ht : t.Fits) {store : Store}
    (hledgers : ∀ venue, ledgerOf store venue =
      .ok (replay s.policy.splitter s.bot venue (history ++ [t]))) :
    Booked s ((w.withTrade t).withStore store) (history ++ [t]) := by
  refine ⟨?_, ?_, ?_, hledgers⟩
  · have hread : [t.row (w.trades.lastId + 1)].mapM Row.trade = .ok [t] := by
      rw [List.mapM_cons, ht.trade_row]
      rfl
    show (t.row (w.trades.lastId + 1) :: w.trades.rows).reverse.mapM Row.trade = _
    rw [List.reverse_cons, List.mapM_append, h.rows, hread]
    rfl
  · refine List.pairwise_cons.2 ⟨?_, h.ids⟩
    intro id hid
    obtain ⟨r, hr, rfl⟩ := List.mem_map.1 hid
    exact Nat.lt_succ_of_le (h.ids_le r hr)
  · -- the new row has the last number
    intro r hr
    rcases List.mem_cons.1 hr with rfl | hr
    · exact Nat.le_refl _
    · exact Nat.le_succ_of_le (h.ids_le r hr)

/-- A trade that counts for no venue leaves all ledgers as they are. -/
theorem Booked.withTrade_of_other (h : Booked s w history) {t : Trade} (ht : t.Fits)
    (hother : t.signer ≠ s.bot) : Booked s (w.withTrade t) (history ++ [t]) := by
  have hledgers : ∀ venue, ledgerOf w.registry.store venue =
      .ok (replay s.policy.splitter s.bot venue (history ++ [t])) := by
    intro venue
    rw [replay_append_of_not_counts (decide_eq_false fun hc => hother hc.2.1)]
    exact h.ledgers venue
  exact h.withTrade ht hledgers

end Booked

/-! ## The steps -/

section Steps

variable {s : Setup} {e : Envelope} {ix : CompiledInstruction} {facts : Facts}

/-- The record of an own swap counts when the swap succeeded and moved something. -/
theorem countsFor_tradeOf {site : SwapSite} (hown : site.signer = s.bot) (seconds : Int64) :
    countsFor s.bot site.venue (tradeOf e facts site seconds) = true ↔
      e.isFailed = false ∧ e.poolSideDelta site.mint ≠ 0 := by
  have hstatus : (tradeOf e facts site seconds).status = .success ↔ e.isFailed = false := by
    show (if e.isFailed then TradeStatus.failed else .success) = .success ↔ _
    cases e.isFailed <;> simp
  unfold countsFor
  rw [decide_eq_true_iff, hstatus]
  constructor
  · rintro ⟨-, -, hsucceeded, hamount⟩
    exact ⟨hsucceeded, hamount⟩
  · rintro ⟨hsucceeded, hamount⟩
    exact ⟨rfl, hown, hsucceeded, hamount⟩

/-- An own swap is drawn on the ledger of its venue exactly when its record
    counts for that venue. -/
theorem ledgerOf_drawOn {site : SwapSite} {w : State} {history : List Trade}
    (h : Booked s w history) (hown : site.signer = s.bot) (seconds : Int64) (venue : Key) :
    ledgerOf (drawOn s e site w).2 venue =
      .ok (replay s.policy.splitter s.bot venue (history ++ [tradeOf e facts site seconds])) := by
  by_cases hvenue : venue = site.venue
  · subst hvenue
    rw [drawOn_draws s e (h.ledgers site.venue)]
    by_cases hmoved : e.isFailed = false ∧ e.poolSideDelta site.mint ≠ 0
    · rw [if_pos hmoved, replay_append_of_counts ((countsFor_tradeOf hown seconds).2 hmoved)]
      rfl
    · have hcounts : countsFor s.bot site.venue (tradeOf e facts site seconds) = false :=
        Bool.eq_false_iff.2 fun hc => hmoved ((countsFor_tradeOf hown seconds).1 hc)
      rw [if_neg hmoved, replay_append_of_not_counts hcounts]
  · -- the ledger of another venue is left alone, and the record counts for none
    have hcounts : countsFor s.bot venue (tradeOf e facts site seconds) = false :=
      decide_eq_false fun hc => hvenue hc.1.symm
    rw [replay_append_of_not_counts hcounts, ← h.ledgers venue]
    exact (Tracking.handleSelfSwap_ne s.policy _ hvenue _ _).2

/-- The handling of a swap keeps the books in order, wherever it is broken off. -/
theorem allows_handleSwap (s : Setup) (e : Envelope) (ix : CompiledInstruction) (facts : Facts) :
    (Frame.ofProperty (InBooks s)).Allows (handleSwap s e ix facts).run := by
  rw [Frame.allows_run]
  rintro w ⟨history, hbooked⟩
  rcases hsite : runOn (swapSite e ix) w with ⟨err | site, w'⟩
  · have hlooks := (allows_swapSite e ix).rel_of_runOn hsite
    rw [runOn_handleSwap_error s facts hsite]
    exact ⟨history, hbooked.of_keepsBooks (keepsBooks_of_looks hlooks)⟩
  -- looking the site up keeps the books; then there are four ways to go on
  have hlooks := (allows_swapSite e ix).rel_of_runOn hsite
  have hbooked' := hbooked.of_keepsBooks (keepsBooks_of_looks hlooks)
  have hfits := tradeOf_fits e facts site (s.wallSeconds w')
  cases hstatus : statusOf w'.registry.store site.venue with
  | error err =>
    rw [runOn_handleSwap_unread s facts hsite hstatus]
    exact ⟨history, hbooked'⟩
  | ok status =>
    by_cases hown : site.signer = s.bot
    · rw [runOn_handleSwap_own s facts hsite hstatus hown]
      exact ⟨_, hbooked'.withTrade hfits (ledgerOf_drawOn hbooked' hown _)⟩
    · cases htracked : status.isTracked with
      | false =>
        rw [runOn_handleSwap_passed s facts hsite hstatus htracked hown]
        exact ⟨history, hbooked'⟩
      | true =>
        rw [runOn_handleSwap_other s facts hsite hstatus htracked hown]
        have hrecorded := hbooked'.withTrade_of_other hfits hown
        exact ⟨_, hrecorded.of_keepsBooks (allows_fire s _ _)⟩

/-- Handling an envelope keeps the books in order. -/
theorem allows_process (s : Setup) (e : Envelope) :
    (Frame.ofProperty (InBooks s)).Allows (process s e) := by
  intro w
  cases hseen : w.seen.remembers w.time e.signature with
  | true =>
    rw [run_process_duplicate s e hseen]
    exact Frame.refl _ w
  | false =>
    rw [run_process_new s e hseen]
    rintro ⟨history, hbooked⟩
    -- neither the arrival nor the instructions are entries in the books
    have harrival : keepsBooks.rel w (noteArrival s e w) := rfl
    have hscanned := (covers_keepsBooks s).handleEach e e.instructions (noteArrival s e w)
    have hbooked' := hbooked.of_keepsBooks (keepsBooks.trans harrival hscanned)
    show InBooks s ((conclude s e (gathered e)).run (scanned s e w)).2
    cases hswap : (gathered e).swap with
    | none =>
      rw [run_conclude_none hswap]
      exact ⟨history, hbooked'⟩
    | some ix =>
      rw [run_conclude_some hswap]
      have htell : ∀ notice, (Frame.ofProperty (InBooks s)).Allows (tell notice) :=
        fun notice w ⟨history, hbooked⟩ => ⟨history, hbooked.of_keepsBooks (allows_tell notice w)⟩
      exact allows_attempt htell _ _ (allows_handleSwap s e ix _) _ ⟨history, hbooked'⟩

end Steps

/-! ## Runs -/

/-- The states that a watcher comes to when it starts with an empty store and
    no trades and is given envelopes one after the other.  Meanwhile anything
    may happen but for writes to the store and the history. -/
inductive Reaches (s : Setup) : State → Prop where
  | start {w : State} : w.registry.store = .empty → w.trades = .empty → Reaches s w
  | process {w : State} (e : Envelope) : Reaches s w → Reaches s ((process s e).run w).2
  | meanwhile {w w' : State} : Reaches s w → w'.registry.store = w.registry.store →
      w'.trades = w.trades → Reaches s w'

theorem inBooks_of_reaches {s : Setup} {w : State} (h : Reaches s w) : InBooks s w := by
  -- by induction on the run: every step keeps the books in order
  induction h with
  | start hstore htrades => exact ⟨[], booked_start hstore htrades⟩
  | process e _ ih => exact allows_process s e _ ih
  | meanwhile _ hstore htrades ih =>
    obtain ⟨history, hbooked⟩ := ih
    refine ⟨history, hbooked.of_keepsBooks (Prod.ext htrades ?_)⟩
    exact congrArg ledgerOf hstore

/-- After every envelope the rows, in the order of their numbers, read as
    trades, and the ledger that is stored for a venue is the one that its own,
    successful, non-empty trades lead to. -/
theorem ledgerOf_eq_replay {s : Setup} {w : State} (h : Reaches s w) :
    (w.trades.rows.reverse.map Row.id).Pairwise (· < ·) ∧
      ∃ history, w.trades.rows.reverse.mapM Row.trade = .ok history ∧
        ∀ venue, ledgerOf w.registry.store venue =
          .ok (replay s.policy.splitter s.bot venue history) := by
  obtain ⟨history, hbooked⟩ := inBooks_of_reaches h
  refine ⟨?_, history, hbooked.rows, hbooked.ledgers⟩
  rw [List.map_reverse, List.pairwise_reverse]
  exact hbooked.ids

/-! ## A sale that is replayed -/

namespace SaleSample

/-- A node that tells of the venue and its market. -/
def node : Reader where
  account _ address :=
    if address = venue then
      .ok (some ⟨Account.PoolState.codec.encode (pool Address.orderBookProgram), .zero, 0⟩)
    else if address = .ofNat 4 then
      .ok (some ⟨Account.MarketState.codec.encode market, .zero, 0⟩)
    else .ok none
  balance _ _ := .ok 0
  blockhash _ := .ok .zero

/-- A watcher without a history, in front of the node. -/
def watching : State := start ⟨.empty, node, []⟩

theorem account_venue (past : List Query) : node.account past venue =
    .ok (some ⟨Account.PoolState.codec.encode (pool Address.orderBookProgram), .zero, 0⟩) := by
  unfold node
  dsimp only
  rw [if_pos rfl]

theorem account_market (past : List Query) : node.account past (.ofNat 4) =
    .ok (some ⟨Account.MarketState.codec.encode market, .zero, 0⟩) := by
  have hmarket : Key.ofNat 4 ≠ venue := by decide
  unfold node
  dsimp only
  rw [if_neg hmarket, if_pos rfl]

theorem knowsPool_watching :
    watching.registry.KnowsPool venue (order Address.orderBookProgram).keys :=
  .told (Store.record?_empty ..)
    (fun past => ⟨_, account_venue past, Registry.decode_encode _ (pool _)⟩)
    (fun past => ⟨_, account_market past, Registry.decode_encode _ market⟩) rfl

/-- What a vault held of the sold token. -/
def held (amount : Int) : TokenBalance :=
  ⟨0, .ofNat 3, some Address.vaultAuthority, Text.Decimal.ofInt amount⟩

/-- The sale, as it was executed: the vault took a thousand tokens in. -/
def executed (m : Message) : Envelope :=
  { m.toEnvelope "" with preBalances := [held 500], postBalances := [held 1500] }

theorem poolSideDelta_executed (m : Message) : (executed m).poolSideDelta (.ofNat 3) = -1000 := by
  have hread : ∀ amount : Int, -(2 ^ 127 : Int) ≤ amount → amount < 2 ^ 127 →
      Envelope.poolAmount? [held amount] (.ofNat 3) = some amount := by
    intro amount hlow hhigh
    have hamount : Text.Decimal.readSigned 128 (Text.Decimal.ofInt amount) = .ok amount :=
      Text.Decimal.readSigned_ofInt hlow hhigh
    unfold Envelope.poolAmount?
    rw [List.find?_cons_of_pos (by simp [held])]
    show (Text.Decimal.readSigned 128 (Text.Decimal.ofInt amount)).toOption = _
    rw [hamount]
    rfl
  unfold Envelope.poolSideDelta executed
  rw [hread 500 (by decide) (by decide), hread 1500 (by decide) (by decide)]
  decide

/-- After the sale the history has one trade that counts, and the ledger is
    the one that it opens. -/
theorem sale_replays : ∃ m history,
    Reaches setup ((process setup (executed m)).run watching).2 ∧
      ((process setup (executed m)).run watching).2.trades.rows.reverse.mapM Row.trade =
        .ok history ∧
      replay setup.policy.splitter setup.bot venue history = some (.start 1000 50) := by
  obtain ⟨m, hm⟩ := exists_sale Address.orderBookProgram
  have hreaches : Reaches setup ((process setup (executed m)).run watching).2 :=
    .process _ (.start rfl rfl)
  obtain ⟨hown, -⟩ := process_sent (w := watching) (e := executed m) (s := setup) rfl hm
    ⟨rfl, rfl, rfl⟩ nofun knowsPool_watching rfl (Tracking.statusOf_empty venue)
    (mint_order Address.orderBookProgram)
  have hledger := (hown ((signer_readParties rfl ..).trans (if_pos rfl))).ledger none
    (Tracking.ledgerOf_empty venue)
  rw [poolSideDelta_executed, if_pos ⟨rfl, by decide⟩] at hledger
  obtain ⟨-, history, hrows, hreplay⟩ := ledgerOf_eq_replay hreaches
  refine ⟨m, history, hreaches, hrows, ?_⟩
  -- the ledger that is stored is also the one that the history leads to
  have hsame := (hreplay venue).symm.trans hledger
  exact Except.ok.inj hsame

end SaleSample

end PoolWatch.Watcher
