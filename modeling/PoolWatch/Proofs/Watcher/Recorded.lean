import PoolWatch.Proofs.Registry.Caches
import PoolWatch.Proofs.Watcher.Dedup
import PoolWatch.Proofs.Watcher.Discipline
import PoolWatch.Proofs.Watcher.Order

/-! # What is recorded is consistent

    A row of the trade table is put together from everything that an envelope
    says and from what is known of the venue of its swap.  A watcher that
    starts with an empty table has in it what it recorded itself, each row at
    a moment of which it is true (`IsConsistent`).

    Only the end of a handling writes to the table.  So for the table the
    handling of an envelope has two moments, when it is begun and when it
    comes to its end, and between them anything may happen that leaves the
    table alone: the rest of the handling, the handling of other envelopes, or
    something else altogether (`Records`). -/

namespace PoolWatch.Watcher

open Tracking (statusOf)

/-! ## The site of a swap -/

section Sites

variable {e : Envelope} {ix : CompiledInstruction} {site : SwapSite} {w v : State}

/-- Once the keys of a pool were looked up, they are known. -/
theorem poolKeys_known {r r' : Registry} {venue : Key} {keys : PoolKeys}
    (h : runOn (Registry.poolKeys venue) r = (.ok keys, r')) :
    runOn (Registry.poolKeys venue) r' = (.ok keys, r') := by
  have hends := (Registry.Look.pool venue).ends r
  rw [Registry.Look.take_pool, h] at hends
  have hkept := Registry.Look.take_kept (hends.keptIn rfl)
  rw [Registry.Look.take_pool] at hkept
  obtain ⟨hanswer, hregistry⟩ := Prod.mk.inj hkept
  exact Prod.ext (Registry.Look.Answer.pool.inj hanswer) hregistry

/-- When a site was found, the keys of its venue are known, and its mint is the
    one that they have beside the native one. -/
theorem known_of_swapSite (h : runOn (swapSite e ix) w = (.ok site, v)) :
    (runOn (Registry.poolKeys site.venue) v.registry).1 = .ok site.keys ∧
      ∃ nativeIsBase, site.keys.mint? = some (site.mint, nativeIsBase) := by
  rw [swapSite_eq] at h
  obtain ⟨⟨venue, parties⟩, w₁, -, h⟩ := runOn_bind_eq_ok h
  obtain ⟨keys, w₂, hkeys, h⟩ := runOn_bind_eq_ok h
  obtain ⟨⟨mint, nativeIsBase⟩, w₃, hmint, h⟩ := runOn_bind_eq_ok h
  obtain ⟨hsite, rfl⟩ := Prod.mk.inj h
  obtain rfl := Except.ok.inj hsite
  -- the pool was looked up, and to tell its mint is to look at its keys
  rw [runOn_onRegistry] at hkeys
  obtain ⟨hanswer, rfl⟩ := Prod.mk.inj hkeys
  have hknown : (runOn (Registry.poolKeys venue) w₁.registry).1 = .ok keys := by
    cases hrun : (runOn (Registry.poolKeys venue) w₁.registry).1 with
    | error err =>
      rw [hrun] at hanswer
      cases hanswer
    | ok found =>
      rw [hrun] at hanswer
      exact congrArg Except.ok (Except.ok.inj hanswer)
  unfold Registry.mint at hmint
  cases hfound : keys.mint? with
  | none =>
    rw [hfound] at hmint
    cases hmint
  | some found =>
    rw [hfound] at hmint
    obtain ⟨hsame, rfl⟩ := Prod.mk.inj hmint
    obtain rfl : found = (mint, nativeIsBase) := Except.ok.inj hsame
    refine ⟨?_, nativeIsBase, rfl⟩
    show (runOn (Registry.poolKeys venue) (runOn (Registry.poolKeys venue) w₁.registry).2).1 = _
    rw [poolKeys_known (Prod.ext hknown rfl)]

end Sites

/-! ## Consistent trades -/

/-- A trade says of an envelope what is true at a moment. -/
structure IsConsistent (s : Setup) (e : Envelope) (v : State) (t : Trade) : Prop where
  signature : t.signature = e.signature
  action : t.action = .buy ↔ 0 < t.amount
  amount : ∃ keys nativeIsBase,
    (runOn (Registry.poolKeys t.venue) v.registry).1 = .ok keys ∧
      keys.mint? = some (t.mint, nativeIsBase) ∧ t.amount = e.poolSideDelta t.mint
  status : t.status = .failed ↔ ∃ text, e.error = some text ∧ text ≠ ""
  computeLimit_lt : t.computeLimit.toNat < 2 ^ 32
  computePrice_lt : t.computePrice.toNat < 2 ^ 32
  untipped : t.tip = none → t.tipAmount = 0
  tipped : ∀ label, t.tip = some label → label = "jito" ∨ label = "bloxroute"
  watched : IsTracked v t.venue ∨ t.signer = s.bot

section Trades

variable {s : Setup} {e : Envelope} {ix : CompiledInstruction} {facts : Facts} {site : SwapSite}
  {w v : State}

theorem isFailed_iff : e.isFailed = true ↔ ∃ text, e.error = some text ∧ text ≠ "" := by
  unfold Envelope.isFailed
  cases e.error <;> simp

/-- Tips are known by the names of two channels. -/
theorem label_of_tipLabel? {destination : Key} {label : String}
    (h : tipLabel? destination = some label) : label = "jito" ∨ label = "bloxroute" := by
  unfold tipLabel? at h
  split at h
  · exact .inl (Option.some.inj h).symm
  split at h
  · exact .inr (Option.some.inj h).symm
  · cases h

theorem label_of_tip? {tip : Tip} (h : tip? e ix = some tip) :
    tip.label = "jito" ∨ tip.label = "bloxroute" := by
  unfold tip? at h
  split at h
  · split at h
    · cases h
    · simp only [Option.bind_eq_bind, Option.bind_eq_some_iff] at h
      obtain ⟨index, -, destination, -, label, hlabel, htip⟩ := h
      obtain rfl := Option.some.inj htip
      exact label_of_tipLabel? hlabel
  · cases h

/-- The tip that was gathered is one of the tips of the envelope. -/
theorem label_gathered {tip : Tip} (h : (gathered e).facts.tip = some tip) :
    tip.label = "jito" ∨ tip.label = "bloxroute" := by
  rw [gathered_eq] at h
  have hlast : ((e.instructions.filterMap (paidTip? e)).getLast?) = some tip := h
  obtain ⟨ix, -, hpaid⟩ := List.mem_filterMap.1 (List.mem_of_getLast? hlast)
  unfold paidTip? at hpaid
  split at hpaid
  · exact label_of_tip? hpaid
  · cases hpaid

/-- A trade is consistent at the moment when its site has been found. -/
theorem tradeOf_consistent (hsite : runOn (swapSite e ix) w = (.ok site, v))
    (hwatched : IsTracked v site.venue ∨ site.signer = s.bot) (seconds : Int64) :
    IsConsistent s e v (tradeOf e (gathered e).facts site seconds) := by
  obtain ⟨hkeys, nativeIsBase, hmint⟩ := known_of_swapSite hsite
  refine
    { signature := rfl
      action := TradeAction.ofPoolDelta_eq_buy_iff _
      amount := ⟨site.keys, nativeIsBase, hkeys, hmint, rfl⟩
      status := ?_
      computeLimit_lt := ?_
      computePrice_lt := ?_
      untipped := fun hnone => ?_
      tipped := fun label htip => ?_
      watched := hwatched }
  · rw [← isFailed_iff]
    show (if e.isFailed then TradeStatus.failed else .success) = .failed ↔ _
    cases e.isFailed <;> simp
  · show (gathered e).facts.computeLimit.toUInt64.toNat < 2 ^ 32
    rw [UInt32.toNat_toUInt64]
    exact UInt32.toNat_lt _
  · show (gathered e).facts.computePrice.toUInt64.toNat < 2 ^ 32
    rw [UInt32.toNat_toUInt64]
    exact UInt32.toNat_lt _
  · have hfacts : (gathered e).facts.tip = none := Option.map_eq_none_iff.1 hnone
    show (gathered e).facts.tipLamports = 0
    unfold Facts.tipLamports
    rw [hfacts]
    rfl
  · obtain ⟨tip, hfacts, rfl⟩ := Option.map_eq_some_iff.1 htip
    exact label_gathered hfacts

end Trades

/-! ## Records -/

/-- A row, and the watcher at the moment when it was appended. -/
structure Appended where
  row : Row
  moment : State

/-- A row is what its moment appends of a trade, and it is true then. -/
def Appended.IsTrue (s : Setup) (e : Envelope) (a : Appended) : Prop :=
  ∃ t, a.row.trade = .ok t ∧ IsConsistent s e a.moment t ∧
    (a.moment.withTrade t).trades.rows = a.row :: a.moment.trades.rows

/-- An envelope that was presented, whether its handling has come to an end,
    and what that appended. -/
structure Handling where
  envelope : Envelope
  ended : Bool
  appended : List Appended

/-- The rows of a handling. -/
def Handling.rows (q : Handling) : List Row :=
  q.appended.map Appended.row

/-- The watcher when the swap of an envelope is recorded: its site has been
    found. -/
def momentOf (e : Envelope) (w : State) : State :=
  match (gathered e).swap with
  | none => w
  | some ix => (runOn (swapSite e ix) w).2

/-- The handling of an envelope that comes to its end. -/
def endOf (s : Setup) (e : Envelope) (w : State) : Handling where
  envelope := e
  ended := true
  appended := (newRows w ((conclude s e (gathered e)).run w).2).map fun row => ⟨row, momentOf e w⟩

/-- What a watcher comes to that starts with an empty table, with the log of
    the envelopes that were presented to it.  One that is remembered is
    dropped; the handling of any other is begun when it arrives, and later
    comes to its end.  Meanwhile anything may happen but for changes to the
    table. -/
inductive Records (s : Setup) : State → List Handling → Prop where
  | start {w : State} : w.trades.rows = [] → Records s w []
  | dropped {w : State} {log : List Handling} (e : Envelope) : Records s w log →
      w.seen.remembers w.time e.signature = true → Records s w (⟨e, true, []⟩ :: log)
  | begun {w : State} {log : List Handling} (e : Envelope) : Records s w log →
      w.seen.remembers w.time e.signature = false →
      Records s (noteArrival s e w) (⟨e, false, []⟩ :: log)
  | ended {w : State} {newer older : List Handling} {e : Envelope} :
      Records s w (newer ++ ⟨e, false, []⟩ :: older) →
      Records s ((conclude s e (gathered e)).run w).2 (newer ++ endOf s e w :: older)
  | meanwhile {w w' : State} {log : List Handling} : Records s w log →
      w'.trades.rows = w.trades.rows → Records s w' log

section Records

variable {s : Setup} {e : Envelope} {w w' : State} {log newer older : List Handling}

/-- What may be said of every handling. -/
structure Handling.Sound (s : Setup) (q : Handling) : Prop where
  pending : q.ended = false → q.appended = []
  le_one : q.appended.length ≤ 1
  isTrue : ∀ a ∈ q.appended, a.IsTrue s q.envelope

theorem sound_nil (s : Setup) (e : Envelope) (ended : Bool) :
    Handling.Sound s ⟨e, ended, []⟩ :=
  ⟨fun _ => rfl, Nat.zero_le 1, List.forall_mem_nil _⟩

/-- The end of a handling appends one row at most, which is true. -/
theorem endOf_sound (s : Setup) (e : Envelope) (w : State) :
    (endOf s e w).Sound s ∧
      ((conclude s e (gathered e)).run w).2.trades.rows = (endOf s e w).rows ++ w.trades.rows := by
  have hrows : (endOf s e w).rows = newRows w ((conclude s e (gathered e)).run w).2 := by
    unfold endOf Handling.rows
    rw [List.map_map]
    exact List.map_id _
  obtain htrades | ⟨ix, site, v, status, hswap, hsite, hstatus, hjudged, htrades⟩ :=
    trades_conclude s e (gathered e) w
  · have hnone : newRows w ((conclude s e (gathered e)).run w).2 = [] :=
      newRows_eq (congrArg TradeHistory.rows htrades)
    have hend : endOf s e w = ⟨e, true, []⟩ := by
      unfold endOf
      rw [hnone]
      rfl
    rw [hend]
    exact ⟨sound_nil s e true, congrArg TradeHistory.rows htrades⟩
  · let t := tradeOf e (gathered e).facts site (s.wallSeconds v)
    have hfits : t.Fits := tradeOf_fits ..
    have hone : newRows w ((conclude s e (gathered e)).run w).2 = [t.row (w.trades.lastId + 1)] :=
      newRows_eq (congrArg TradeHistory.rows htrades)
    have hmoment : momentOf e w = v := by
      unfold momentOf
      rw [hswap]
      exact congrArg Prod.snd hsite
    have hend : endOf s e w = ⟨e, true, [⟨t.row (w.trades.lastId + 1), v⟩]⟩ := by
      unfold endOf
      rw [hone, hmoment]
      rfl
    -- to look for the site leaves the table as it is
    have hlooks : v.trades = w.trades :=
      congrArg Prod.fst (keepsBooks_of_looks ((allows_swapSite e ix).rel_of_runOn hsite))
    have hwatched : IsTracked v site.venue ∨ site.signer = s.bot :=
      hjudged.imp_left fun htracked => ⟨status, hstatus, htracked⟩
    rw [hend]
    refine ⟨⟨nofun, Nat.le_refl 1, List.forall_mem_singleton.2 ?_⟩,
      congrArg TradeHistory.rows htrades⟩
    refine ⟨t, hfits.trade_row _, tradeOf_consistent hsite hwatched _, ?_⟩
    rw [← hlooks]
    rfl

/-- The table holds the rows of the log, and those are true. -/
structure Accounts (s : Setup) (w : State) (log : List Handling) : Prop where
  rows : w.trades.rows.Perm (log.flatMap Handling.rows)
  sound : ∀ q ∈ log, q.Sound s

theorem Accounts.cons (h : Accounts s w log) (e : Envelope) (ended : Bool) :
    Accounts s w (⟨e, ended, []⟩ :: log) :=
  ⟨h.rows, List.forall_mem_cons.2 ⟨sound_nil s e ended, h.sound⟩⟩

theorem Accounts.meanwhile (h : Accounts s w log) (hrows : w'.trades.rows = w.trades.rows) :
    Accounts s w' log :=
  ⟨hrows ▸ h.rows, h.sound⟩

theorem Accounts.ended (h : Accounts s w (newer ++ ⟨e, false, []⟩ :: older)) :
    Accounts s ((conclude s e (gathered e)).run w).2 (newer ++ endOf s e w :: older) := by
  obtain ⟨hsound, hrows⟩ := endOf_sound s e w
  constructor
  · -- the rows come to stand where the handling stands in the log
    have hold := h.rows
    have hpending : Handling.rows ⟨e, false, []⟩ = [] := rfl
    rw [List.flatMap_append, List.flatMap_cons, hpending, List.nil_append] at hold
    rw [hrows, List.flatMap_append, List.flatMap_cons]
    refine (hold.append_left (endOf s e w).rows).trans ?_
    rw [← List.append_assoc, ← List.append_assoc]
    exact List.perm_append_comm.append_right (older.flatMap Handling.rows)
  · obtain ⟨hnewer, hrest⟩ := List.forall_mem_append.1 h.sound
    obtain ⟨-, holder⟩ := List.forall_mem_cons.1 hrest
    exact List.forall_mem_append.2 ⟨hnewer, List.forall_mem_cons.2 ⟨hsound, holder⟩⟩

theorem accounts_of_records (h : Records s w log) : Accounts s w log := by
  induction h with
  | start hempty => exact ⟨by rw [hempty]; rfl, List.forall_mem_nil _⟩
  | dropped e _ _ ih => exact ih.cons e true
  | begun e _ _ ih => exact (ih.cons e false).meanwhile rfl
  | ended _ ih => exact ih.ended
  | meanwhile _ hrows ih => exact ih.meanwhile hrows

/-- To process an envelope is to drop it, or to begin with it and to come to
    its end, with its instructions in between. -/
theorem Records.process (h : Records s w log) (e : Envelope) :
    ∃ q : Handling, q.envelope = e ∧ q.ended = true ∧
      Records s ((process s e).run w).2 (q :: log) ∧
      ((process s e).run w).2.trades.rows = q.rows ++ w.trades.rows := by
  cases hseen : w.seen.remembers w.time e.signature with
  | true =>
    rw [run_process_duplicate s e hseen]
    exact ⟨_, rfl, rfl, h.dropped e hseen, rfl⟩
  | false =>
    have hkeeps : (scanned s e w).trades = w.trades :=
      congrArg Prod.fst ((covers_keepsBooks s).handleEach e e.instructions (noteArrival s e w))
    have hscanned : Records s (scanned s e w) ([] ++ ⟨e, false, []⟩ :: log) :=
      (h.begun e hseen).meanwhile (congrArg TradeHistory.rows hkeeps)
    obtain ⟨-, hrows⟩ := endOf_sound s e (scanned s e w)
    rw [run_process_new s e hseen, ← hkeeps]
    exact ⟨_, rfl, rfl, hscanned.ended, hrows⟩

/-- From an empty table that nothing else writes to, whatever envelopes are
    presented and however their handlings take turns, the table holds the rows
    of the log.  A handling appended one row at most, and every row is a trade
    that was true of its envelope at the moment when it was appended.  To
    process one more envelope leads on in this way. -/
theorem records_consistent (h : Records s w log) :
    w.trades.rows.Perm (log.flatMap Handling.rows) ∧
    (∀ q ∈ log, q.rows.length ≤ 1 ∧ ∀ a ∈ q.appended, ∃ t, a.row.trade = .ok t ∧
      IsConsistent s q.envelope a.moment t ∧
      (a.moment.withTrade t).trades.rows = a.row :: a.moment.trades.rows) ∧
    ∀ e : Envelope, ∃ q : Handling, q.envelope = e ∧ q.ended = true ∧
      Records s ((Watcher.process s e).run w).2 (q :: log) ∧
      ((Watcher.process s e).run w).2.trades.rows = q.rows ++ w.trades.rows := by
  have haccounts := accounts_of_records h
  refine ⟨haccounts.rows, fun q hq => ?_, h.process⟩
  have hsound := haccounts.sound q hq
  exact ⟨(List.length_map _).trans_le hsound.le_one, hsound.isTrue⟩

end Records

namespace SaleSample

/-- The sale is recorded, in a table that was empty, and the row is true. -/
theorem sale_records : ∃ m q a,
    Swap.message setup.bot native executor.options (order Address.orderBookProgram) .direct
        .zero = .ok m ∧
      Records setup ((process setup (executed m)).run watching).2 [q] ∧ q.appended = [a] ∧
      ∃ t, a.row.trade = .ok t ∧ IsConsistent setup (executed m) a.moment t := by
  obtain ⟨m, hm⟩ := exists_sale Address.orderBookProgram
  have hstart : Records setup watching [] := .start rfl
  obtain ⟨-, -, hprocess⟩ := records_consistent hstart
  obtain ⟨q, henvelope, -, hrecords, hrows⟩ := hprocess (executed m)
  obtain ⟨hperm, hsound, -⟩ := records_consistent hrecords
  obtain ⟨hle, htrue⟩ := hsound q List.mem_cons_self
  -- the sale is the bot's own, so something is recorded
  obtain ⟨hown, -⟩ := process_sent (w := watching) (e := executed m) (s := setup) rfl hm
    ⟨rfl, rfl, rfl⟩ nofun knowsPool_watching rfl (Tracking.statusOf_empty venue)
    (mint_order Address.orderBookProgram)
  obtain ⟨facts, seconds, htrade⟩ := (hown ((signer_readParties rfl ..).trans (if_pos rfl))).trade
  rw [htrade] at hrows
  cases happended : q.appended with
  | nil =>
    have hnone : q.rows = [] := congrArg (List.map Appended.row) happended
    rw [hnone] at hrows
    cases hrows
  | cons a rest =>
    have hrest : rest = [] := by
      unfold Handling.rows at hle
      rw [happended] at hle
      exact List.eq_nil_of_length_eq_zero (by simpa using hle)
    obtain ⟨t, hread, hconsistent, -⟩ := htrue a (happended ▸ List.mem_cons_self)
    exact ⟨m, q, a, hm, hrecords, by rw [happended, hrest], t, hread, henvelope ▸ hconsistent⟩

end SaleSample

end PoolWatch.Watcher
