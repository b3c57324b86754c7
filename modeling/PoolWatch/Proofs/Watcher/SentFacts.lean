import PoolWatch.Proofs.Bytes
import PoolWatch.Proofs.Watcher.Answer

/-! # The facts that a swap was sent with

    What a swap is sent with stands in its calls, and a scan of the executed
    calls reads it again: the compute limit, the compute price and the tip.
    The two sides do not share their widths.  A price is written in 64 bits
    and read in 32, and lamports are written without a sign and read with
    one.  So the facts come back as they were as long as the price fits 32
    bits and the lamports fit 63; past that, the price keeps its low half and
    the lamports turn negative.

    Calls are compared through `StandsFor`, which asks for static keys, for a
    tip is only recognised by a static key. -/

namespace PoolWatch.Watcher

open Tracking (statusOf)

/-! ## Instructions and calls -/

/-- An instruction stands for a call, all of whose keys are static. -/
structure StandsFor (e : Envelope) (ix : CompiledInstruction) (c : Call) : Prop where
  program : e.programOf? ix = some c.program
  accounts : List.Forall₂ (fun (n : UInt8) (a : AccountMeta) =>
    e.accountKeys[n.toNat]? = some a.key) ix.accounts c.accounts
  data : ix.data = c.data

section StandsFor

variable {e : Envelope} {ix : CompiledInstruction} {c : Call} {r : Registry}

theorem StandsFor.carries (h : StandsFor e ix c) (r : Registry) : r.Carries e ix c :=
  ⟨h.program, h.accounts.imp fun _ _ hkey => .static hkey, h.data⟩

/-- Without lookup tables there are only static keys. -/
theorem StandsFor.of_carries (h : r.Carries e ix c) (hlookups : e.tableLookups = []) :
    StandsFor e ix c := by
  refine ⟨h.program, h.accounts.imp fun n a hkey => ?_, h.data⟩
  rw [hlookups] at hkey
  cases hkey with
  | static hstatic => exact hstatic
  | entry _ hentry => cases hentry

theorem StandsFor.account (h : StandsFor e ix c) (position : Nat) :
    (do let n ← ix.accounts[position]?; e.accountKeys[n.toNat]?) =
      c.accounts[position]?.map AccountMeta.key := by
  obtain ⟨hlength, hkeys⟩ := List.forall₂_iff_get.1 h.accounts
  by_cases hlt : position < ix.accounts.length
  · have hlt' : position < c.accounts.length := hlength ▸ hlt
    rw [List.getElem?_eq_getElem hlt, List.getElem?_eq_getElem hlt']
    exact hkeys position hlt hlt'
  · have hlt' : ¬ position < c.accounts.length := hlength ▸ hlt
    rw [List.getElem?_eq_none (Nat.not_lt.1 hlt), List.getElem?_eq_none (Nat.not_lt.1 hlt')]
    rfl

end StandsFor

/-! ## The facts of calls -/

/-- The facts with another tip, if there is one. -/
def Facts.withTip (f : Facts) (tip : Option Tip) : Facts :=
  { f with tip := tip.or f.tip }

/-- The tip that a call pays. -/
def tipOf? (c : Call) : Option Tip := do
  let .transfer op amount := Instruction.decodeTransfer c.data | Option.none
  if op ≠ Instruction.transferOp then Option.none
  let destination ← c.accounts[1]?.map AccountMeta.key
  let label ← tipLabel? destination
  pure ⟨label, amount⟩

/-- The facts after a call. -/
def Facts.afterCall (f : Facts) (c : Call) : Facts :=
  if c.program = Address.venueProgram then f
  else if c.program = Address.computeBudgetProgram then f.afterBudget c.data
  else if c.program = Address.systemProgram then f.withTip (tipOf? c)
  else f

section Gathering

variable {e : Envelope} {ix : CompiledInstruction} {c : Call}

theorem afterTransfer_eq (f : Facts) : f.afterTransfer e ix = f.withTip (tip? e ix) := by
  unfold Facts.afterTransfer Facts.withTip
  cases tip? e ix <;> rfl

/-- The tip is read off the instruction as it is read off the call. -/
theorem tip?_standsFor (h : StandsFor e ix c) : tip? e ix = tipOf? c := by
  have hdestination := h.account 1
  unfold tip? tipOf?
  rw [h.data, ← hdestination]
  cases ix.accounts[1]? <;> rfl

theorem facts_after (h : StandsFor e ix c) (scan : Scan) :
    (scan.after e ix).facts = scan.facts.afterCall c := by
  unfold Scan.after Facts.afterCall
  rw [h.program]
  dsimp only
  by_cases hvenue : c.program = Address.venueProgram
  · -- the watched program gives a swap, and no facts
    rw [if_pos hvenue, if_pos hvenue]
    split <;> rfl
  rw [if_neg hvenue, if_neg hvenue]
  by_cases hbudget : c.program = Address.computeBudgetProgram
  · rw [if_pos hbudget, if_pos hbudget, h.data]
  rw [if_neg hbudget, if_neg hbudget]
  by_cases hsystem : c.program = Address.systemProgram
  · rw [if_pos hsystem, if_pos hsystem, afterTransfer_eq, tip?_standsFor h]
  · rw [if_neg hsystem, if_neg hsystem]

/-- What is gathered of instructions are the facts of the calls they stand for. -/
theorem facts_gather {instructions : List CompiledInstruction} {calls : List Call}
    (h : List.Forall₂ (StandsFor e) instructions calls) (scan : Scan) :
    (instructions.foldl (Scan.after e) scan).facts = calls.foldl Facts.afterCall scan.facts := by
  -- call by call, from whatever was gathered before
  induction h generalizing scan with
  | nil => rfl
  | cons hfirst _ ih => rw [List.foldl_cons, List.foldl_cons, ih, facts_after hfirst]

end Gathering

/-! ## Single calls -/

section Calls

variable (f : Facts)

/-- A compute-budget call with its first byte apart. -/
theorem afterBudget_cons (op : UInt8) (value : Bytes) :
    f.afterBudget (op :: value) =
      if op = Instruction.computeLimitOp then
        { f with computeLimit := word32At (op :: value) 1 }
      else if op = Instruction.computePriceOp then
        { f with computePrice := word32At (op :: value) 1 }
      else f := rfl

theorem afterCall_budget {c : Call} (h : c.program = Address.computeBudgetProgram) :
    f.afterCall c = f.afterBudget c.data := by
  have hvenue : Address.computeBudgetProgram ≠ Address.venueProgram := by decide
  unfold Facts.afterCall
  rw [h, if_neg hvenue, if_pos rfl]

theorem afterCall_system {c : Call} (h : c.program = Address.systemProgram) :
    f.afterCall c = f.withTip (tipOf? c) := by
  have hvenue : Address.systemProgram ≠ Address.venueProgram := by decide
  have hbudget : Address.systemProgram ≠ Address.computeBudgetProgram := by decide
  unfold Facts.afterCall
  rw [h, if_neg hvenue, if_neg hbudget, if_pos rfl]

/-- A call to a program that is not read gives no facts. -/
theorem afterCall_other {c : Call} (hbudget : c.program ≠ Address.computeBudgetProgram)
    (hsystem : c.program ≠ Address.systemProgram) : f.afterCall c = f := by
  unfold Facts.afterCall
  rw [if_neg hbudget, if_neg hsystem, ite_self]

theorem afterCall_computeLimit (limit : UInt32) :
    f.afterCall (Swap.computeLimit limit) = { f with computeLimit := limit } := by
  have hread : word32At (Instruction.computeLimitOp :: leOfWord32 limit) 1 = limit := by
    have hword := word32At_leOfNat [Instruction.computeLimitOp] [] limit.toNat (Nat.le_refl 4)
    rw [List.append_nil, UInt32.ofNat_toNat] at hword
    exact hword
  rw [afterCall_budget f rfl, Swap.computeLimit, afterBudget_cons, if_pos rfl, hread]

/-- Of a price that is written in eight bytes, four are read. -/
theorem afterCall_computePrice (price : UInt64) :
    f.afterCall (Swap.computePrice price) = { f with computePrice := price.toUInt32 } := by
  have hlimit : ¬ Instruction.computePriceOp = Instruction.computeLimitOp := by decide
  have hread : word32At (Instruction.computePriceOp :: leOfWord64 price) 1 = price.toUInt32 := by
    have hfour : 4 ≤ 8 := by decide
    have hlow : UInt32.ofNat price.toNat = price.toUInt32 := by
      apply UInt32.toNat_inj.1
      rw [UInt32.toNat_ofNat', UInt64.toNat_toUInt32]
    have hword := word32At_leOfNat [Instruction.computePriceOp] [] price.toNat hfour
    rw [List.append_nil, hlow] at hword
    exact hword
  rw [afterCall_budget f rfl, Swap.computePrice, afterBudget_cons, if_neg hlimit, if_pos rfl, hread]

/-- The tip to the paid relay is recognised by its destination. -/
theorem afterCall_relayTip (payer : Key) (lamports : UInt64) :
    f.afterCall (Swap.relayTip payer lamports) =
      { f with tip := some ⟨Channel.paidRelay.name, lamports.toInt64⟩ } := by
  have hlabel : tipLabel? Address.relayTip = some Channel.paidRelay.name := by decide
  have hop : word32At (leOfWord32 Instruction.transferOp ++ leOfWord64 lamports) 0 =
      Instruction.transferOp := by
    have hword := word32At_leOfNat [] (leOfWord64 lamports) Instruction.transferOp.toNat
      (Nat.le_refl 4)
    rw [List.nil_append, UInt32.ofNat_toNat] at hword
    exact hword
  have hamount : word64At (leOfWord32 Instruction.transferOp ++ leOfWord64 lamports) 4 =
      lamports := by
    have hword := word64At_leOfNat (leOfWord32 Instruction.transferOp) [] lamports.toNat
      (Nat.le_refl 8)
    rw [List.append_nil, UInt64.ofNat_toNat] at hword
    exact hword
  have htip : tipOf? (Swap.relayTip payer lamports) =
      some ⟨Channel.paidRelay.name, lamports.toInt64⟩ := by
    have hdestination : (Swap.relayTip payer lamports).accounts[1]?.map AccountMeta.key =
        some Address.relayTip := rfl
    unfold tipOf? Instruction.decodeTransfer signed64At
    rw [hdestination]
    unfold Swap.relayTip
    dsimp only
    rw [hop, hamount, if_neg (not_not_intro rfl), Option.bind_eq_bind, Option.bind_some, hlabel]
    rfl
  rw [afterCall_system f rfl, htip]
  rfl

/-- The swap itself gives no facts, whatever program the pool names. -/
theorem afterCall_swapBaseIn (keys : PoolKeys) (source destination owner : Key)
    (amountIn minimumOut : UInt64) :
    f.afterCall (Swap.swapBaseIn keys source destination owner amountIn minimumOut) = f := by
  let c := Swap.swapBaseIn keys source destination owner amountIn minimumOut
  let amounts := leOfWord64 amountIn ++ leOfWord64 minimumOut
  have hdata : c.data = Instruction.swapBaseInTag :: amounts := rfl
  have hlimit : ¬ Instruction.swapBaseInTag = Instruction.computeLimitOp := by decide
  have hprice : ¬ Instruction.swapBaseInTag = Instruction.computePriceOp := by decide
  -- read as a transfer, the first word has the tag of a swap for its low byte
  have hop : word32At c.data 0 ≠ Instruction.transferOp := by
    intro hop
    have hlow := toNat_word32At_zero Instruction.swapBaseInTag amounts
    rw [← hdata, hop] at hlow
    exact absurd hlow (by decide)
  have htip : tipOf? c = none := by
    unfold tipOf? Instruction.decodeTransfer
    dsimp only
    rw [if_pos hop]
    rfl
  show f.afterCall c = f
  by_cases hbudget : c.program = Address.computeBudgetProgram
  · rw [afterCall_budget f hbudget, hdata, afterBudget_cons, if_neg hlimit, if_neg hprice]
  by_cases hsystem : c.program = Address.systemProgram
  · rw [afterCall_system f hsystem, htip]
    rfl
  · exact afterCall_other f hbudget hsystem

end Calls

/-! ## The calls of a swap -/

/-- The facts of a swap that was sent, as they are read: the price keeps its
    low 32 bits, and the lamports are taken for a number with a sign. -/
def sentFacts (options : SwapOptions) (order : SwapOrder) (channel : Channel) : Facts where
  computeLimit := order.compute.limit
  computePrice := order.compute.price.toUInt32
  tip :=
    if channel = .paidRelay ∧ 0 < options.tipLamports then
      some ⟨Channel.paidRelay.name, options.tipLamports.toInt64⟩
    else none

section Sent

variable {payer native mint : Key} {options : SwapOptions} {order : SwapOrder} {channel : Channel}

/-- What stands before the swap sets the compute budget; what is not set is zero. -/
theorem facts_opening : (Swap.opening payer mint order).foldl Facts.afterCall .none =
    ⟨order.compute.limit, order.compute.price.toUInt32, none⟩ := by
  have hlimit : (if 0 < order.compute.limit then [Swap.computeLimit order.compute.limit] else
      []).foldl Facts.afterCall .none = ⟨order.compute.limit, 0, none⟩ := by
    by_cases hset : 0 < order.compute.limit
    · rw [if_pos hset]
      exact afterCall_computeLimit .none _
    · rw [if_neg hset, UInt32.le_zero_iff.1 (UInt32.not_lt.1 hset)]
      rfl
  have hprice : (if 0 < order.compute.price then [Swap.computePrice order.compute.price] else
      []).foldl Facts.afterCall ⟨order.compute.limit, 0, none⟩ =
        ⟨order.compute.limit, order.compute.price.toUInt32, none⟩ := by
    by_cases hset : 0 < order.compute.price
    · rw [if_pos hset]
      exact afterCall_computePrice _ _
    · rw [if_neg hset, UInt64.le_zero_iff.1 (UInt64.not_lt.1 hset)]
      rfl
  have hbudget : Address.tokenAccountProgram ≠ Address.computeBudgetProgram := by decide
  have hsystem : Address.tokenAccountProgram ≠ Address.systemProgram := by decide
  have hopen : ∀ f : Facts, f.afterCall (Swap.openTokenAccount payer mint) = f :=
    fun f => afterCall_other f hbudget hsystem
  unfold Swap.opening
  rw [List.foldl_append, List.foldl_append, hlimit, hprice]
  -- opening a token account gives no facts
  cases order.action with
  | buy => exact hopen _
  | sell => rfl

/-- What stands after the swap pays the tip, on the paid relay. -/
theorem facts_closing (order : SwapOrder) {f : Facts} (hnone : f.tip = none) :
    (Swap.closing payer options channel).foldl Facts.afterCall f =
      { f with tip := (sentFacts options order channel).tip } := by
  have hkeep : { f with tip := none } = f := by rw [← hnone]
  have hbudget : Address.memoProgram ≠ Address.computeBudgetProgram := by decide
  have hsystem : Address.memoProgram ≠ Address.systemProgram := by decide
  have hmemo : ∀ f : Facts, f.afterCall Swap.relayMemo = f :=
    fun f => afterCall_other f hbudget hsystem
  unfold Swap.closing sentFacts
  cases channel with
  | direct => exact hkeep.symm
  | blockEngine => exact hkeep.symm
  | paidRelay =>
    -- the memo gives no facts
    dsimp only
    rw [List.foldl_append, List.foldl_cons, List.foldl_nil, hmemo]
    by_cases hpaid : 0 < options.tipLamports
    · have htips : Channel.paidRelay = .paidRelay ∧ 0 < options.tipLamports := ⟨rfl, hpaid⟩
      rw [if_pos hpaid, if_pos htips]
      exact afterCall_relayTip f payer _
    · have htips : ¬ (Channel.paidRelay = .paidRelay ∧ 0 < options.tipLamports) :=
        fun h => hpaid h.2
      rw [if_neg hpaid, if_neg htips]
      exact hkeep.symm

/-- The facts of all calls together. -/
theorem facts_calls (payer native mint : Key) (options : SwapOptions) (order : SwapOrder)
    (channel : Channel) :
    (Swap.opening payer mint order ++
      Swap.traded payer native mint order :: Swap.closing payer options channel).foldl
        Facts.afterCall .none = sentFacts options order channel := by
  rw [List.foldl_append, facts_opening, List.foldl_cons, Swap.traded, afterCall_swapBaseIn,
    facts_closing order rfl]
  rfl

/-- The price is read as it was written when it fits 32 bits. -/
theorem sentFacts_price_iff :
    (sentFacts options order channel).computePrice.toNat = order.compute.price.toNat ↔
      order.compute.price.toNat < 2 ^ 32 := by
  show order.compute.price.toUInt32.toNat = _ ↔ _
  rw [UInt64.toNat_toUInt32]
  omega

/-- The lamports are read as they were written when they fit 63 bits. -/
theorem sentFacts_tip_iff (hpaid : channel = .paidRelay) :
    (sentFacts options order channel).tipLamports.toInt = options.tipLamports.toNat ↔
      options.tipLamports.toNat < 2 ^ 63 := by
  have hsigned : (sentFacts options order channel).tipLamports = options.tipLamports.toInt64 := by
    unfold sentFacts Facts.tipLamports
    dsimp only
    by_cases hset : 0 < options.tipLamports
    · rw [if_pos ⟨hpaid, hset⟩]
      rfl
    · -- no tip is a tip of nothing
      rw [if_neg fun h => hset h.2, UInt64.le_zero_iff.1 (UInt64.not_lt.1 hset)]
      rfl
  -- both have the same 64 bits, the highest of which is the sign
  have hbits : options.tipLamports.toInt64.toInt =
      (options.tipLamports.toNat : Int).bmod (2 ^ 64) := by
    rw [← Int64.toInt_toBitVec, UInt64.toBitVec_toInt64, BitVec.toInt_eq_toNat_bmod]
    rfl
  have hlt := options.tipLamports.toNat_lt
  rw [hsigned, hbits, Int.bmod_eq_iff (by decide)]
  omega

end Sent

/-! ## The record of a swap that was sent -/

/-- A trade carries the facts that were gathered. -/
structure HasFacts (t : Trade) (f : Facts) : Prop where
  computeLimit : t.computeLimit = f.computeLimit.toUInt64
  computePrice : t.computePrice = f.computePrice.toUInt64
  tip : t.tip = f.tip.map Tip.label
  tipAmount : t.tipAmount = f.tipLamports

/-- What it takes for the swap of an order to be recognised as the bot's own. -/
structure IsRecognised (s : Setup) (w : State) (native mint : Key) (order : SwapOrder) :
    Prop where
  program : order.keys.programId = Address.venueProgram
  market : order.keys.version ≠ PoolKeys.poolVersion →
    order.keys.marketId ≠ Address.orderBookProgram
  pool : w.registry.KnowsPool order.keys.id order.keys
  status : ∃ status, statusOf w.registry.store order.keys.id = .ok status
  signer : (readParties order.keys (Swap.ends s.bot native mint order.action).1
    (Swap.ends s.bot native mint order.action).2 s.bot).signer = s.bot

section Recorded

variable {s : Setup} {e : Envelope} {w : State} {facts : Facts}

/-- The record of an own swap names the bot. -/
theorem TakenAsOwn.signer {keys : PoolKeys} {mint : Key} {w' : State} {site : SwapSite}
    {seconds : Int64} (h : TakenAsOwn s e keys mint w w')
    (htrades : w'.trades = w.trades.withTrade (tradeOf e facts site seconds)) :
    site.signer = s.bot := by
  obtain ⟨facts', seconds', htrade⟩ := h.trade
  have hsame := (tradeOf_fits ..).withTrade_inj (tradeOf_fits ..) (htrades.symm.trans htrade)
  exact congrArg Trade.signer hsame

theorem TakenAsOwn.ne {keys : PoolKeys} {mint : Key} {w' : State}
    (h : TakenAsOwn s e keys mint w w') : w'.trades ≠ w.trades := by
  intro htrades
  obtain ⟨facts', seconds', htrade⟩ := h.trade
  have hid : w.trades.lastId + 1 = w.trades.lastId :=
    congrArg TradeHistory.lastId (htrade.symm.trans htrades)
  omega

end Recorded

/-- The executed calls of a swap are scanned to the facts it was sent with,
    but for the high half of the price and the sign of the lamports.  Any row
    that the envelope appends carries these facts, and there is one, in the
    bot's name, when the swap is recognised as the bot's own. -/
theorem sent_recorded (payer native : Key) (options : SwapOptions) (order : SwapOrder)
    (channel : Channel) {mint : Key} {nativeIsBase : Bool}
    (hmint : order.keys.mint? = some (mint, nativeIsBase)) :
    ((sentFacts options order channel).computePrice.toNat = order.compute.price.toNat ↔
      order.compute.price.toNat < 2 ^ 32) ∧
    (channel = .paidRelay →
      ((sentFacts options order channel).tipLamports.toInt = options.tipLamports.toNat ↔
        options.tipLamports.toNat < 2 ^ 63)) ∧
    ∃ calls, Swap.calls payer native options order channel = .ok calls ∧
      ∀ (e : Envelope) (s : Setup) (w : State),
        List.Forall₂ (StandsFor e) e.instructions calls →
        ((scanAll s e ⟨.none, none⟩ e.instructions).run w).1.facts =
          sentFacts options order channel ∧
        (w.seen.remembers w.time e.signature = false →
          ∃ tradeId w' appended, (process s e).run w = (.done tradeId, w') ∧
            w'.trades.rows = appended ++ w.trades.rows ∧
            (∀ row ∈ appended, ∃ t, row.trade = .ok t ∧
              HasFacts t (sentFacts options order channel)) ∧
            (payer = s.bot → IsRecognised s w native mint order →
              ∃ row t, appended = [row] ∧ row.trade = .ok t ∧ t.signer = s.bot)) := by
  refine ⟨sentFacts_price_iff, sentFacts_tip_iff, _, Swap.calls_eq hmint, ?_⟩
  intro e s w hstands
  have hfacts : (gathered e).facts = sentFacts options order channel :=
    (facts_gather hstands _).trans (facts_calls ..)
  rw [scanAll_eq]
  refine ⟨hfacts, fun hnew => ?_⟩
  obtain ⟨tradeId, w', hprocess, houtcome⟩ := process_outcome (s := s) hnew
  rw [hfacts] at houtcome
  have hown : payer = s.bot → IsRecognised s w native mint order →
      TakenAsOwn s e order.keys mint w w' := by
    rintro rfl hrecognised
    obtain ⟨status, hstatus⟩ := hrecognised.status
    have hcarries := hstands.imp fun _ _ h => h.carries w.registry
    obtain ⟨hown, -⟩ := process_calls hcarries hrecognised.program hrecognised.market
      hrecognised.pool hnew hstatus hmint
    have htaken := hown hrecognised.signer
    rwa [hprocess] at htaken
  obtain htrades | ⟨site, htrades⟩ := houtcome.trades
  · refine ⟨tradeId, w', [], hprocess, congrArg TradeHistory.rows htrades, nofun, ?_⟩
    exact fun hpayer hrecognised => absurd htrades (hown hpayer hrecognised).ne
  · have hread := (tradeOf_fits e (sentFacts options order channel) site
      (s.wallSeconds w')).trade_row (w.trades.lastId + 1)
    refine ⟨tradeId, w', [_], hprocess, congrArg TradeHistory.rows htrades, ?_, ?_⟩
    · intro row hrow
      rw [List.mem_singleton.1 hrow]
      exact ⟨_, hread, rfl, rfl, rfl, rfl⟩
    · intro hpayer hrecognised
      exact ⟨_, _, rfl, hread, (hown hpayer hrecognised).signer htrades⟩

/-! ## Sales and their facts -/

namespace SaleSample

/-- A sale at a price past 32 bits. -/
def dear : SwapOrder :=
  { order Address.orderBookProgram with compute := ⟨200000, 0x100000007⟩ }

section Static

variable {options : SwapOptions} {order : SwapOrder} {channel : Channel} {m : Message}
  {e : Envelope}

/-- A swap that was sent without a table stands for its calls. -/
theorem standsFor_sent
    (hm : Swap.message setup.bot native options order channel .zero = .ok m) (he : Delivers e m)
    (hnone : options.lookupTable = none) (hmint : order.keys.mint? = some (.ofNat 3, true)) :
    List.Forall₂ (StandsFor e) e.instructions (Swap.opening setup.bot (.ofNat 3) order ++
      Swap.traded setup.bot native (.ofNat 3) order ::
        Swap.closing setup.bot options channel) := by
  have hlookups : e.tableLookups = [] := by
    obtain ⟨calls, -, hcompile⟩ := Swap.message_eq_ok hm
    obtain ⟨drained, left, htaken, -, hlookups, -⟩ := Message.compile_eq_ok hcompile
    have hdrained : drained = [] := by
      have hle := htaken.length_le
      rw [hnone] at hle
      exact List.eq_nil_of_length_eq_zero (Nat.le_zero.1 hle)
    rw [he.lookups, hlookups, hdrained]
    rfl
  have htable : ∀ t ∈ options.lookupTable, watching.registry.HasTable t.key t.addresses := by
    rw [hnone]
    exact nofun
  exact (carries_sent hm he htable hmint).imp fun _ _ h => .of_carries h hlookups

end Static

/-- The price of the dear sale comes back as the seven that is left of it. -/
theorem dear_misread : ∃ m calls,
    Swap.message setup.bot native executor.options dear .direct .zero = .ok m ∧
      Swap.calls setup.bot native executor.options dear .direct = .ok calls ∧
      List.Forall₂ (StandsFor (executed m)) (executed m).instructions calls ∧
      ((scanAll setup (executed m) ⟨.none, none⟩ (executed m).instructions).run
        watching).1.facts.computePrice = 7 ∧
      dear.compute.price ≠ 7 := by
  have hmint : dear.keys.mint? = some (.ofNat 3, true) := mint_order _
  obtain ⟨m, hm⟩ : ∃ m,
      Swap.message setup.bot native executor.options dear .direct .zero = .ok m :=
    Swap.exists_message (Swap.calls_eq hmint) nofun
  have hstands := standsFor_sent (e := executed m) hm ⟨rfl, rfl, rfl⟩ rfl hmint
  have hfacts : (gathered (executed m)).facts = sentFacts executor.options dear .direct :=
    (facts_gather hstands _).trans (facts_calls ..)
  refine ⟨m, _, hm, Swap.calls_eq hmint, hstands, ?_, by decide⟩
  rw [scanAll_eq]
  exact congrArg Facts.computePrice hfacts

/-- A sale over the paid relay is recorded with its limit, its price and its tip. -/
theorem sale_carriesFacts : ∃ m w' row t,
    Swap.message setup.bot native executor.options (order Address.orderBookProgram) .paidRelay
        .zero = .ok m ∧
      ((process setup (executed m)).run watching).2 = w' ∧ w'.trades.rows = [row] ∧
      row.trade = .ok t ∧ t.signer = setup.bot ∧ t.computeLimit = 200000 ∧
      t.computePrice = 7 ∧ t.tip = some "bloxroute" ∧ t.tipAmount = 1000 := by
  have hmint := mint_order Address.orderBookProgram
  obtain ⟨m, hm⟩ : ∃ m, Swap.message setup.bot native executor.options
      (order Address.orderBookProgram) .paidRelay .zero = .ok m :=
    Swap.exists_message (Swap.calls_eq hmint) nofun
  have hstands := standsFor_sent (e := executed m) hm ⟨rfl, rfl, rfl⟩ rfl hmint
  have hrecognised :
      IsRecognised setup watching native (.ofNat 3) (order Address.orderBookProgram) :=
    ⟨rfl, fun h => absurd rfl h, knowsPool_watching, ⟨_, Tracking.statusOf_empty venue⟩,
      (signer_readParties rfl ..).trans (if_pos rfl)⟩
  obtain ⟨-, -, calls, hcalls, hsent⟩ := sent_recorded setup.bot native executor.options
    (order Address.orderBookProgram) .paidRelay hmint
  obtain rfl := Except.ok.inj ((Swap.calls_eq hmint).symm.trans hcalls)
  obtain ⟨-, hprocess⟩ := hsent (executed m) setup watching hstands
  obtain ⟨tradeId, w', appended, hrun, hrows, hfacts, hown⟩ := hprocess rfl
  obtain ⟨row, t, rfl, hread, hsigner⟩ := hown rfl hrecognised
  -- the only row is the one that carries the facts
  obtain ⟨t', hread', hlimit, hprice, htip, hamount⟩ := hfacts row (List.mem_singleton_self row)
  obtain rfl : t = t' := Except.ok.inj (hread.symm.trans hread')
  refine ⟨m, w', row, t, hm, congrArg Prod.snd hrun, hrows, hread, hsigner, hlimit, hprice, ?_, ?_⟩
  · exact htip
  · exact hamount

end SaleSample

end PoolWatch.Watcher
