import PoolWatch.Proofs.Watcher.Scan
import PoolWatch.Proofs.Watcher.Site

/-! # A swap that comes back

    What the executor sent comes back on the feed.  Among its calls the swap
    is the only one to the watched program, so it is what is handled.  It is
    taken for the bot's own when the key that stands where the signer is
    looked for is the bot's.  For a pool whose market is run by the
    order-book program this is so; for any other market that key is the
    account that the swap puts into, and the bot takes its own swap for
    someone else's. -/

namespace PoolWatch.Watcher

open Tracking (statusOf ledgerOf Ledger)

/-! ## Scanning -/

/-- What was compiled is what was executed. -/
structure Delivers (e : Envelope) (m : Message) : Prop where
  keys : e.accountKeys = m.staticKeys
  instructions : e.instructions = m.instructions
  lookups : e.tableLookups = m.lookups

section Scanning

variable (s : Setup) {e : Envelope} {r : Registry} {ix : CompiledInstruction} {c : Call}

/-- A call to another program gives facts at most. -/
theorem scanOne_aside (h : r.Carries e ix c) (hc : Swap.IsAside c) (scan : Scan) (w : State) :
    ∃ facts, (scanOne s e scan ix).run w = (⟨facts, scan.swap⟩, w) := by
  unfold scanOne
  rw [h.program]
  dsimp only
  rw [if_neg hc.program]
  split
  · exact ⟨_, rfl⟩
  split
  · exact ⟨_, rfl⟩
  · exact ⟨_, rfl⟩

/-- The data of a swap is read as a swap. -/
theorem decodeVenue_encodeSwap (amountIn minimumOut : UInt64) :
    ∃ amount limit, Instruction.decodeVenue (Instruction.encodeSwap amountIn minimumOut) =
      .ok (.swapBaseIn amount limit) := ⟨_, _, rfl⟩

/-- A swap on the watched program is kept for the end. -/
theorem scanOne_swap {keys : PoolKeys} {source destination owner : Key}
    {amountIn minimumOut : UInt64} (hprogram : keys.programId = Address.venueProgram)
    (h : r.Carries e ix (Swap.swapBaseIn keys source destination owner amountIn minimumOut))
    (scan : Scan) (w : State) :
    (scanOne s e scan ix).run w = (⟨scan.facts, some ix⟩, w) := by
  obtain ⟨amount, limit, hdecode⟩ := decodeVenue_encodeSwap amountIn minimumOut
  have hvenue : e.programOf? ix = some Address.venueProgram := by
    rw [h.program]
    exact congrArg some hprogram
  have hdata : ix.data = Instruction.encodeSwap amountIn minimumOut := h.data
  unfold scanOne
  rw [hvenue]
  dsimp only
  rw [if_pos rfl]
  unfold scanVenue
  rw [hdata, hdecode]
  rfl

theorem scanAll_aside {instructions : List CompiledInstruction} {calls : List Call}
    (h : List.Forall₂ (r.Carries e) instructions calls) (haside : ∀ c ∈ calls, Swap.IsAside c)
    (scan : Scan) (w : State) :
    ∃ facts, (scanAll s e scan instructions).run w = (⟨facts, scan.swap⟩, w) := by
  induction h generalizing scan with
  | nil => exact ⟨scan.facts, rfl⟩
  | @cons ix c instructions calls hfirst _ ih =>
    obtain ⟨facts, hone⟩ := scanOne_aside s hfirst (haside c (List.mem_cons_self ..)) scan w
    obtain ⟨facts', hrest⟩ := ih (fun c' hc' => haside c' (List.mem_cons_of_mem _ hc'))
      ⟨facts, scan.swap⟩
    refine ⟨facts', ?_⟩
    show (scanAll s e ((scanOne s e scan ix).run w).1 instructions).run
      ((scanOne s e scan ix).run w).2 = _
    rw [hone]
    exact hrest

theorem scanAll_append (scan : Scan) (xs ys : List CompiledInstruction) (w : State) :
    (scanAll s e scan (xs ++ ys)).run w =
      (scanAll s e ((scanAll s e scan xs).run w).1 ys).run ((scanAll s e scan xs).run w).2 := by
  induction xs generalizing scan w with
  | nil => rfl
  | cons ix rest ih => exact ih _ _

variable {payer native blockhash : Key} {options : SwapOptions} {order : SwapOrder}
  {channel : Channel} {m : Message}

/-- Of the calls of a swap, the swap itself is kept for the end. -/
theorem scanAll_calls {mint : Key}
    (hcarries : List.Forall₂ (r.Carries e) e.instructions (Swap.opening payer mint order ++
      Swap.traded payer native mint order :: Swap.closing payer options channel))
    (hprogram : order.keys.programId = Address.venueProgram) (w : State) :
    ∃ facts ix, (scanAll s e ⟨.none, none⟩ e.instructions).run w = (⟨facts, some ix⟩, w) ∧
      r.Carries e ix (Swap.traded payer native mint order) := by
  -- the instructions of what stands before the swap, of the swap, and of the rest
  have hbefore := List.forall₂_take_append _ _ _ hcarries
  obtain ⟨ix, rest, hix, hrest, hsplit⟩ :=
    List.forall₂_cons_right_iff.1 (List.forall₂_drop_append _ _ _ hcarries)
  -- what stands before and after the swap leaves the choice of it alone
  obtain ⟨facts, hopening⟩ := scanAll_aside s hbefore (fun _ => Swap.aside_opening)
    ⟨.none, none⟩ w
  obtain ⟨facts', hclosing⟩ := scanAll_aside s hrest (fun _ => Swap.aside_closing)
    ⟨facts, some ix⟩ w
  refine ⟨facts', ix, ?_, hix⟩
  rw [← List.take_append_drop (Swap.opening payer mint order).length e.instructions, hsplit,
    scanAll_append, hopening]
  show (scanAll s e ((scanOne s e ⟨facts, none⟩ ix).run w).1 rest).run
    ((scanOne s e ⟨facts, none⟩ ix).run w).2 = _
  rw [scanOne_swap s hprogram hix]
  exact hclosing

/-- The instructions of a swap that was sent stand for its calls. -/
theorem carries_sent
    (hm : Swap.message payer native options order channel blockhash = .ok m) (he : Delivers e m)
    (htable : ∀ t ∈ options.lookupTable, r.HasTable t.key t.addresses) {mint : Key}
    {nativeIsBase : Bool} (hmint : order.keys.mint? = some (mint, nativeIsBase)) :
    List.Forall₂ (r.Carries e) e.instructions (Swap.opening payer mint order ++
      Swap.traded payer native mint order :: Swap.closing payer options channel) := by
  obtain ⟨calls, hcalls, hcompile⟩ := Swap.message_eq_ok hm
  rw [Swap.calls_eq hmint] at hcalls
  obtain rfl := Except.ok.inj hcalls
  have hcarries := (Message.carries_compile hcompile "" htable).imp
    fun _ _ h => Registry.Carries.congr h he.keys he.lookups
  rwa [← he.instructions] at hcarries

end Scanning

/-! ## What comes of it -/

/-- A swap is taken for the bot's own: its record names the bot, a ledger is
    opened or drawn on when it succeeded and moved something, and no event is
    shown. -/
structure TakenAsOwn (s : Setup) (e : Envelope) (keys : PoolKeys) (mint : Key)
    (w w' : State) : Prop where
  trade : ∃ facts seconds, w'.trades =
    w.trades.withTrade (tradeOf e facts ⟨keys.id, s.bot, keys, mint⟩ seconds)
  ledger : ∀ ledger, ledgerOf w.registry.store keys.id = .ok ledger →
    ledgerOf w'.registry.store keys.id =
      .ok (if e.isFailed = false ∧ e.poolSideDelta mint ≠ 0 then
        Ledger.draw s.policy.splitter ledger (e.poolSideDelta mint).natAbs else ledger)
  fired : w'.fired = w.fired

/-- A swap is taken for someone else's: no ledger is touched.  On a tracked
    venue its record names someone else, and the event is shown to the
    strategy; elsewhere it is passed over. -/
structure TakenAsOther (e : Envelope) (keys : PoolKeys) (mint signer : Key)
    (status : Tracking.Status) (w w' : State) : Prop where
  ledgers : ledgerOf w'.registry.store = ledgerOf w.registry.store
  tracked : status.isTracked = true →
    (∃ facts seconds, w'.trades =
      w.trades.withTrade (tradeOf e facts ⟨keys.id, signer, keys, mint⟩ seconds)) ∧
    w'.fired = .otherSwap keys (.ofPoolDelta (e.poolSideDelta mint)) (e.poolSideDelta mint)
      signer e.signature :: w.fired
  untracked : status.isTracked = false → w'.trades = w.trades ∧ w'.fired = w.fired

/-- A swap is not taken for both. -/
theorem TakenAsOwn.not_other {s : Setup} {e : Envelope} {keys : PoolKeys} {mint signer : Key}
    {status : Tracking.Status} {w w' : State} (h : TakenAsOwn s e keys mint w w')
    (h' : TakenAsOther e keys mint signer status w w') : False := by
  -- someone else's swap shows an event, or leaves no record
  cases htracked : status.isTracked with
  | true =>
    obtain ⟨-, hfired⟩ := h'.tracked htracked
    exact List.cons_ne_self _ _ (hfired.symm.trans h.fired)
  | false =>
    obtain ⟨htrades, -⟩ := h'.untracked htracked
    obtain ⟨facts, seconds, htrade⟩ := h.trade
    have hid : w.trades.lastId + 1 = w.trades.lastId :=
      congrArg TradeHistory.lastId (htrade.symm.trans htrades)
    omega

/-! ## Handling -/

section Handling

variable {s : Setup} {e : Envelope} {ix : CompiledInstruction} {facts : Facts} {w w₁ w₂ : State}
  {keys : PoolKeys} {mint signer : Key} {status : Tracking.Status}

/-- What an attempt leaves is what its handling left, but for what was told. -/
theorem run_attempt {α : Type} (signature what : String) (op : WatchM α) (w : State) :
    ∃ notices, ((attempt signature what op).run w).2 = { (runOn op w).2 with notices } := by
  unfold attempt runOn
  rw [StateT.run_bind]
  rcases op.run.run w with ⟨err | a, w'⟩
  · exact ⟨.warn (signature ++ " | " ++ what ++ ": " ++ err.message) :: w'.notices, rfl⟩
  · exact ⟨w'.notices, rfl⟩

/-- An envelope that is no duplicate, with a swap to be handled at the end. -/
theorem run_process (hnew : w.seen.remembers w.time e.signature = false)
    (hscan : (scanAll s e ⟨.none, none⟩ e.instructions).run (noteArrival s e w) =
      (⟨facts, some ix⟩, noteArrival s e w)) :
    ∃ notices, ((process s e).run w).2 =
      { (runOn (handleSwap s e ix facts) (noteArrival s e w)).2 with notices } := by
  obtain ⟨notices, hattempt⟩ :=
    run_attempt e.signature "swap" (handleSwap s e ix facts) (noteArrival s e w)
  -- only the swap was gathered, and nothing was handled
  obtain ⟨hgathered, hhandled⟩ := Prod.mk.inj ((scanAll_eq ..).symm.trans hscan)
  have hgathered : gathered e = ⟨facts, some ix⟩ := hgathered
  have hhandled : scanned s e w = noteArrival s e w := hhandled
  refine ⟨notices, ?_⟩
  rw [run_process_new s e hnew, run_conclude_some (congrArg Scan.swap hgathered), hgathered,
    hhandled]
  exact hattempt

section Site

variable (facts) (hsite : runOn (swapSite e ix) w = (.ok ⟨keys.id, signer, keys, mint⟩, w₁))

include hsite

variable (hstatus : statusOf w.registry.store keys.id = .ok status)

include hstatus

/-- A swap at a site where the bot is taken for the signer. -/
theorem handleSwap_own (hown : signer = s.bot) :
    TakenAsOwn s e keys mint w (runOn (handleSwap s e ix facts) w).2 := by
  obtain ⟨hrest, -, hstatuses, hledgers⟩ := (allows_swapSite e ix).rel_of_runOn hsite
  rw [← hstatuses] at hstatus
  subst hown
  rw [runOn_handleSwap_own s facts hsite hstatus rfl]
  refine ⟨⟨facts, s.wallSeconds w₁, ?_⟩, ?_, ?_⟩
  · show w₁.trades.withTrade _ = _
    rw [hrest]
    rfl
  · intro ledger hledger
    rw [← hledgers] at hledger
    exact drawOn_draws s e hledger
  · show w₁.fired = _
    rw [hrest]
    rfl

/-- A swap at a site where someone else is taken for the signer. -/
theorem handleSwap_other (hother : signer ≠ s.bot) :
    TakenAsOther e keys mint signer status w (runOn (handleSwap s e ix facts) w).2 := by
  obtain ⟨hrest, -, hstatuses, hledgers⟩ := (allows_swapSite e ix).rel_of_runOn hsite
  rw [← hstatuses] at hstatus
  have htrades : w₁.trades = w.trades := by
    rw [hrest]
    rfl
  have hfired : w₁.fired = w.fired := by
    rw [hrest]
    rfl
  cases htracked : status.isTracked with
  | false =>
    rw [runOn_handleSwap_passed s facts hsite hstatus htracked hother]
    exact ⟨hledgers, fun h => absurd h (by simp [htracked]), fun _ => ⟨htrades, hfired⟩⟩
  | true =>
    rw [runOn_handleSwap_other s facts hsite hstatus htracked hother]
    obtain ⟨htrades', hstore, hfired'⟩ :=
      fire_records s (.otherSwap keys (.ofPoolDelta (e.poolSideDelta mint))
        (e.poolSideDelta mint) signer e.signature)
        (w₁.withTrade (tradeOf e facts ⟨keys.id, signer, keys, mint⟩ (s.wallSeconds w₁)))
    refine ⟨?_, fun _ => ⟨⟨facts, s.wallSeconds w₁, ?_⟩, ?_⟩, fun h => ?_⟩
    · exact (congrArg ledgerOf hstore).trans hledgers
    · refine htrades'.trans ?_
      show w₁.trades.withTrade _ = _
      rw [htrades]
    · refine hfired'.trans ?_
      show _ :: w₁.fired = _
      rw [hfired]
    · rw [htracked] at h
      cases h

end Site

end Handling

/-! ## Swaps that were sent -/

section Sent

variable {s : Setup} {e : Envelope} {w : State} {native blockhash : Key} {options : SwapOptions}
  {order : SwapOrder} {channel : Channel} {m : Message} {venue : Key} {pool : Account.PoolState}
  {market : Account.MarketState} {status : Tracking.Status}

/-- For pools that are put together here it depends on the market who is
    taken for the signer. -/
theorem signer_readParties (hkeys : order.keys = .assemble venue pool market)
    (source destination owner : Key) :
    (readParties order.keys source destination owner).signer =
      if pool.marketProgram = Address.orderBookProgram then owner else destination := by
  have hmisread : IsMisread order.keys ↔ pool.marketProgram ≠ Address.orderBookProgram := by
    rw [hkeys]
    exact ⟨fun h => h.2, fun h => ⟨rfl, h⟩⟩
  unfold readParties
  by_cases hprogram : pool.marketProgram = Address.orderBookProgram
  · rw [if_neg fun h => hmisread.1 h hprogram, if_pos hprogram]
  · rw [if_pos (hmisread.2 hprogram), if_neg hprogram]

/-- The calls of the bot's own swap come back: whom it is taken to be by. -/
theorem process_calls {mint : Key} {nativeIsBase : Bool}
    (hcarries : List.Forall₂ (w.registry.Carries e) e.instructions
      (Swap.opening s.bot mint order ++
        Swap.traded s.bot native mint order :: Swap.closing s.bot options channel))
    (hprogram : order.keys.programId = Address.venueProgram)
    (hmarket : order.keys.version ≠ PoolKeys.poolVersion →
      order.keys.marketId ≠ Address.orderBookProgram)
    (hpool : w.registry.KnowsPool order.keys.id order.keys)
    (hnew : w.seen.remembers w.time e.signature = false)
    (hstatus : statusOf w.registry.store order.keys.id = .ok status)
    (hmint : order.keys.mint? = some (mint, nativeIsBase)) :
    let ends := Swap.ends s.bot native mint order.action
    let signer := (readParties order.keys ends.1 ends.2 s.bot).signer
    let w' := ((process s e).run w).2
    (signer = s.bot → TakenAsOwn s e order.keys mint w w') ∧
      (signer ≠ s.bot → TakenAsOther e order.keys mint signer status w w') := by
  intro ends signer w'
  obtain ⟨facts, ix, hscan, hcarries⟩ := scanAll_calls s hcarries hprogram (noteArrival s e w)
  obtain ⟨notices, hprocess⟩ := run_process hnew hscan
  -- the arrival of the envelope shows in no record
  have hstatus' : statusOf (noteArrival s e w).registry.store order.keys.id = .ok status := hstatus
  have hcarries' : (noteArrival s e w).registry.Carries e ix _ := hcarries
  obtain ⟨w₁, hsite⟩ := runOn_swapSite hcarries' hmarket hpool hmint
  refine ⟨fun hown => ?_, fun hother => ?_⟩
  · obtain ⟨htrade, hledger, hfired⟩ := handleSwap_own facts hsite hstatus' hown
    show TakenAsOwn s e order.keys mint w ((process s e).run w).2
    rw [hprocess]
    exact ⟨htrade, hledger, hfired⟩
  · obtain ⟨hledgers, htracked, huntracked⟩ :=
      handleSwap_other facts hsite hstatus' hother
    show TakenAsOther e order.keys mint signer status w ((process s e).run w).2
    rw [hprocess]
    exact ⟨hledgers, htracked, huntracked⟩

/-- The bot's own swap comes back as it was sent. -/
theorem process_sent (hkeys : order.keys = .assemble venue pool market)
    (hm : Swap.message s.bot native options order channel blockhash = .ok m) (he : Delivers e m)
    (htable : ∀ t ∈ options.lookupTable, w.registry.HasTable t.key t.addresses)
    (hpool : w.registry.KnowsPool venue order.keys)
    (hnew : w.seen.remembers w.time e.signature = false)
    (hstatus : statusOf w.registry.store venue = .ok status) {mint : Key} {nativeIsBase : Bool}
    (hmint : order.keys.mint? = some (mint, nativeIsBase)) :
    let ends := Swap.ends s.bot native mint order.action
    let signer := (readParties order.keys ends.1 ends.2 s.bot).signer
    let w' := ((process s e).run w).2
    (signer = s.bot → TakenAsOwn s e order.keys mint w w') ∧
      (signer ≠ s.bot → TakenAsOther e order.keys mint signer status w w') := by
  have hvenue : order.keys.id = venue := by rw [hkeys]; rfl
  have hprogram : order.keys.programId = Address.venueProgram := by rw [hkeys]; rfl
  have hversion : order.keys.version = PoolKeys.poolVersion := by rw [hkeys]; rfl
  subst hvenue
  exact process_calls (carries_sent hm he htable hmint) hprogram (fun h => absurd hversion h)
    hpool hnew hstatus hmint

end Sent

/-- A reader takes the venue off a swap as it was written, and the parties as
    well unless the swap is misread.  So a swap that was sent for a pool that
    was put together here is recognised as the bot's own when its market is
    run by the order-book program.  For any other market it is taken to be
    by the account that it puts into. -/
theorem swap_comesBack (s : Setup) :
    (∀ (w : State) (e : Envelope) (ix : CompiledInstruction) (keys : PoolKeys)
        (source destination owner : Key) (amountIn minimumOut : UInt64),
      keys.marketId ≠ Address.orderBookProgram →
      w.registry.Carries e ix
        (Swap.swapBaseIn keys source destination owner amountIn minimumOut) →
      (runOn (readSwap e ix) w).1 =
          .ok (keys.id, readParties keys source destination owner) ∧
        (readParties keys source destination owner = ⟨source, destination, owner⟩ ↔
          ¬ IsMisread keys ∨
            (keys.marketAuthority = source ∧ source = destination ∧ destination = owner))) ∧
    (∀ (x : Executor) (native : Key) (order : SwapOrder) (channel : Channel) (blockhash : Key)
        (tx : Transaction) (venue : Key) (pool : Account.PoolState)
        (market : Account.MarketState),
      x.payer = s.bot → order.keys = .assemble venue pool market →
      Swap.transaction x.seed native x.options order channel blockhash = .ok tx →
      ∃ m mint nativeIsBase, tx = .signed x.seed m ∧
        order.keys.mint? = some (mint, nativeIsBase) ∧
        ∀ (e : Envelope) (w : State) (status : Tracking.Status), Delivers e m →
          (∀ t ∈ x.options.lookupTable, w.registry.HasTable t.key t.addresses) →
          w.registry.KnowsPool venue order.keys →
          w.seen.remembers w.time e.signature = false →
          statusOf w.registry.store venue = .ok status →
          let destination := (Swap.ends s.bot native mint order.action).2
          let w' := ((process s e).run w).2
          (TakenAsOwn s e order.keys mint w w' ↔
              pool.marketProgram = Address.orderBookProgram ∨ destination = s.bot) ∧
            (¬ (pool.marketProgram = Address.orderBookProgram ∨ destination = s.bot) →
              TakenAsOther e order.keys mint destination status w w')) := by
  refine ⟨?_, ?_⟩
  · intro w e ix keys source destination owner amountIn minimumOut hmarket hcarries
    obtain ⟨w', hread⟩ := runOn_readSwap hcarries fun _ => hmarket
    exact ⟨congrArg Prod.fst hread, readParties_eq_iff source destination owner⟩
  · intro x native order channel blockhash tx venue pool market hpayer hkeys htx
    obtain ⟨m, hm, rfl⟩ := Swap.transaction_eq_ok htx
    obtain ⟨calls, hcalls, -⟩ := Swap.message_eq_ok hm
    obtain ⟨mint, nativeIsBase, hmint⟩ := Swap.mint_of_calls hcalls
    refine ⟨m, mint, nativeIsBase, rfl, hmint, ?_⟩
    intro e w status he htable hpool hnew hstatus destination w'
    have hm' : Swap.message s.bot native x.options order channel blockhash = .ok m := hpayer ▸ hm
    -- whoever is taken for the signer decides what comes of it
    obtain ⟨hown, hother⟩ := process_sent hkeys hm' he htable hpool hnew hstatus hmint
    rw [signer_readParties hkeys] at hown hother
    by_cases hprogram : pool.marketProgram = Address.orderBookProgram
    · rw [if_pos hprogram] at hown
      exact ⟨iff_of_true (hown rfl) (.inl hprogram), fun h => absurd (.inl hprogram) h⟩
    · rw [if_neg hprogram] at hown hother
      by_cases hdestination : destination = s.bot
      · exact ⟨iff_of_true (hown hdestination) (.inr hdestination),
          fun h => absurd (.inr hdestination) h⟩
      · have hneither : ¬ (pool.marketProgram = Address.orderBookProgram ∨ destination = s.bot) :=
          not_or.2 ⟨hprogram, hdestination⟩
        exact ⟨iff_of_false (fun h => h.not_other (hother hdestination)) hneither,
          fun _ => hother hdestination⟩

/-! ## Sales that come back -/

namespace SaleSample

/-- A venue with the native asset on one side, and a market run by a program. -/
def pool (program : Key) : Account.PoolState :=
  { Account.PoolState.codec.decode [] with
    baseMint := Address.wrappedNative
    quoteMint := .ofNat 3
    marketId := .ofNat 4
    marketProgram := program }

def market : Account.MarketState := Account.MarketState.codec.decode []

def venue : Key := .ofNat 5

/-- A sale on the venue. -/
def order (program : Key) : SwapOrder :=
  ⟨.assemble venue (pool program) market, .sell, 500, 1, ⟨200000, 7⟩⟩

def executor : Executor := ⟨[], ⟨1000, none⟩⟩

/-- The watcher of the executor's own swaps. -/
def setup : Setup := ⟨.standard, executor.payer, 60000, .idle, some executor, 0⟩

/-- An account that is not the executor's own key. -/
def native : Key := if executor.payer = .ofNat 1 then .ofNat 2 else .ofNat 1

theorem native_ne : native ≠ setup.bot := by
  have hne : Key.ofNat 2 ≠ .ofNat 1 := by decide
  by_cases h : executor.payer = .ofNat 1
  · have hnative : native = .ofNat 2 := if_pos h
    have hbot : setup.bot = .ofNat 1 := h
    rw [hnative, hbot]
    exact hne
  · have hnative : native = .ofNat 1 := if_neg h
    rw [hnative]
    exact fun hbot => h hbot.symm

/-- A watcher that starts with a registry. -/
def start (registry : Registry) : State :=
  { registry, trades := .empty, router := .empty, seen := [], blockhash := .zero, time := 0
    fired := [], notices := [] }

/-- A registry that tracks the venue and keeps its keys. -/
def tracking (program : Key) : Registry :=
  Registry.withRecord ⟨Tracking.withStatus 0 venue .both .empty, .empty, []⟩ venue.text .poolKeys
    (order program).keys.toJson

variable (program : Key)

theorem mint_order : (order program).keys.mint? = some (.ofNat 3, true) := if_pos rfl

theorem knowsPool_tracking : (tracking program).KnowsPool venue (order program).keys :=
  .kept (Registry.poolRecord_withRecord_self _ venue _)

theorem statusOf_tracking : statusOf (tracking program).store venue = .ok .both := by
  have hstatus : statusOf (Tracking.withStatus 0 venue .both .empty) venue = .ok .both :=
    Tracking.statusOf_withStatus_self 0 venue .both .empty
  rw [← hstatus]
  apply Tracking.statusOf_congr
  unfold tracking
  rw [Registry.store_withRecord, Store.get?_putRecord, if_neg fun h => nomatch h.2]

theorem exists_sale : ∃ m,
    Swap.message setup.bot native executor.options (order program) .direct .zero = .ok m :=
  Swap.exists_message (Swap.calls_eq (mint_order program)) nofun

/-- A sale on a market of the order-book program is recognised, and one on
    another market is shown to the strategy as someone else's. -/
theorem sale_comesBack :
    ∃ m m', Swap.transaction [] native executor.options (order Address.orderBookProgram) .direct
          .zero = .ok (.signed [] m) ∧
        TakenAsOwn setup (m.toEnvelope "") (order Address.orderBookProgram).keys (.ofNat 3)
          (start (tracking Address.orderBookProgram))
          ((process setup (m.toEnvelope "")).run (start (tracking Address.orderBookProgram))).2 ∧
      Swap.transaction [] native executor.options (order (.ofNat 6)) .direct .zero =
          .ok (.signed [] m') ∧
        TakenAsOther (m'.toEnvelope "") (order (.ofNat 6)).keys (.ofNat 3) native .both
          (start (tracking (.ofNat 6)))
          ((process setup (m'.toEnvelope "")).run (start (tracking (.ofNat 6)))).2 := by
  have hsent : ∀ program, ∃ tx,
      Swap.transaction [] native executor.options (order program) .direct .zero = .ok tx := by
    intro program
    obtain ⟨m, hm⟩ := exists_sale program
    have hm' : Swap.message (keyOfSeed []) native executor.options (order program) .direct .zero =
        .ok m := hm
    unfold Swap.transaction
    rw [hm']
    exact ⟨_, rfl⟩
  obtain ⟨tx, htx⟩ := hsent Address.orderBookProgram
  obtain ⟨tx', htx'⟩ := hsent (.ofNat 6)
  obtain ⟨m, mint, nativeIsBase, rfl, hmint, hback⟩ :=
    (swap_comesBack setup).2 executor native _ _ _ _ venue _ _ rfl rfl htx
  obtain ⟨m', mint', nativeIsBase', rfl, hmint', hback'⟩ :=
    (swap_comesBack setup).2 executor native _ _ _ _ venue _ _ rfl rfl htx'
  obtain ⟨rfl, -⟩ := Prod.mk.inj (Option.some.inj ((mint_order _).symm.trans hmint))
  obtain ⟨rfl, -⟩ := Prod.mk.inj (Option.some.inj ((mint_order _).symm.trans hmint'))
  obtain ⟨hown, -⟩ := hback (m.toEnvelope "") (start (tracking Address.orderBookProgram)) .both
    ⟨rfl, rfl, rfl⟩ nofun (knowsPool_tracking _) rfl (statusOf_tracking _)
  obtain ⟨-, hother⟩ := hback' (m'.toEnvelope "") (start (tracking (.ofNat 6))) .both
    ⟨rfl, rfl, rfl⟩ nofun (knowsPool_tracking _) rfl (statusOf_tracking _)
  have hprogram : (pool (.ofNat 6)).marketProgram ≠ Address.orderBookProgram := by decide
  have hdestination : (Swap.ends setup.bot native (.ofNat 3) (order (.ofNat 6)).action).2 =
      native := Swap.ends_sell ..
  rw [hdestination] at hother
  exact ⟨m, m', htx, hown.2 (.inl rfl), htx', hother (not_or.2 ⟨hprogram, native_ne⟩)⟩

end SaleSample

end PoolWatch.Watcher
