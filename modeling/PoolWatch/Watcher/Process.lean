import PoolWatch.Watcher.Basic

/-! # Handling envelopes

    An envelope whose signature is remembered is a duplicate and changes
    nothing.  Otherwise its instructions are taken in order: openings and
    withdrawals are handled where they stand, compute and tip facts are
    gathered, and the last swap is handled at the end with all of them. -/

namespace PoolWatch.Watcher

/-! ## Account positions -/

/-- Where an opening names its venue. -/
def openPoolVenue : Nat := 4

/-- Where a withdrawal names its venue. -/
def withdrawVenue : Nat := 1

/-- Where a swap names its venue. -/
def swapVenue : Nat := 1

/-- Where a swap names the program of its market. -/
def swapMarketProgram : Nat := 7

/-- Where a swap names the token accounts it moves between and who signs. -/
structure SwapParties where
  source : Nat
  destination : Nat
  signer : Nat

/-- The parties follow the accounts of the market, one more of which are
    named for the order-book program. -/
def SwapParties.ofMarketProgram (program : Key) : SwapParties :=
  if program = Address.orderBookProgram then ⟨15, 16, 17⟩ else ⟨14, 15, 16⟩

/-! ## Triggers -/

/-- The block hash to sign with: the latest of the feed, else the node's. -/
def signingHash : StateM State (Except String Key) := fun w =>
  if w.blockhash ≠ .zero then (.ok w.blockhash, w)
  else
    let (answer, registry) := Registry.readBlockhash (m := StateM Registry) w.registry
    (answer, { w with registry })

/-- Sends an intent, and tells which channels failed. -/
def carryOut (executor : Executor) (intent : Intent) (blockhash : Key) : StateM State Unit :=
  modify fun w =>
    let (answers, router) := executor.execute intent blockhash w.router
    { w with
      router
      notices := (Executor.warnings intent answers).reverse.map Notice.warn ++ w.notices }

/-- Shows an event to the strategy, and carries out what it wants. -/
def fire (s : Setup) (trigger : Trigger) : StateM State Unit := do
  modify fun w => { w with fired := trigger :: w.fired }
  match s.strategy trigger with
  | none => pure ()
  | some intent =>
    match s.executor with
    | none =>
      tell (.fail (trigger.venue.text ++ " | policy produced an intent but no executor is set"))
    | some executor =>
      match ← signingHash with
      | .error text =>
        tell (.fail (trigger.venue.text ++ " | no blockhash to sign with: " ++ text))
      | .ok blockhash => carryOut executor intent blockhash

/-! ## Handling -/

/-- An opening: a tracked venue pauses. -/
def handleOpening (s : Setup) (e : Envelope) (ix : CompiledInstruction) : WatchM Unit := do
  let venue ← onRegistry .resolve (Registry.resolve e ix openPoolVenue)
  let w ← get
  let _ ← onTrackers (Tracking.handleOpening (s.wallClock w) venue)

/-- The pool of a withdrawal. -/
structure Withdrawn where
  venue : Key
  keys : PoolKeys

/-- Finds the pool of a withdrawal. -/
def findWithdrawn (e : Envelope) (ix : CompiledInstruction) : WatchM Withdrawn := do
  let venue ← onRegistry .resolve (Registry.resolve e ix withdrawVenue)
  let keys ← onRegistry .pool (Registry.poolKeys venue)
  pure ⟨venue, keys⟩

/-- A withdrawal that has settled: a pool whose native reserve is down to the
    floor may change its status, and then counts as drained. -/
def settleWithdraw (s : Setup) (e : Envelope) (x : Withdrawn) : WatchM Unit := do
  let reserve ← onRegistry .pool (Registry.nativeBalance x.keys)
  if reserve ≤ s.policy.floor then
    let w ← get
    let next ← onTrackers (Tracking.handleWithdraw s.policy (s.wallClock w) x.venue reserve)
    if next.isSome then
      fire s (.drained x.keys reserve e.signature)

/-- A withdrawal is given time to settle before its pool is looked at. -/
def handleWithdraw (s : Setup) (e : Envelope) (ix : CompiledInstruction) : WatchM Unit := do
  let x ← findWithdrawn e ix
  wait s.policy.settle
  settleWithdraw s e x

/-- Whom a swap is by, and where. -/
structure SwapSite where
  venue : Key
  signer : Key
  keys : PoolKeys
  mint : Key

/-- Finds the site of a swap.  All parties have to resolve, also those that
    are not looked at further. -/
def swapSite (e : Envelope) (ix : CompiledInstruction) : WatchM SwapSite := do
  let venue ← onRegistry .resolve (Registry.resolve e ix swapVenue)
  let program ← onRegistry .resolve (Registry.resolve e ix swapMarketProgram)
  let parties := SwapParties.ofMarketProgram program
  if ix.accounts.length ≤ parties.signer then
    throw (.shortSwap venue ix.accounts.length)
  let _ ← onRegistry .resolve (Registry.resolve e ix parties.source)
  let _ ← onRegistry .resolve (Registry.resolve e ix parties.destination)
  let signer ← onRegistry .resolve (Registry.resolve e ix parties.signer)
  let keys ← onRegistry .pool (Registry.poolKeys venue)
  let (mint, _) ← onRegistry .pool (Registry.mint keys)
  pure ⟨venue, signer, keys, mint⟩

/-- The record of a swap. -/
def tradeOf (e : Envelope) (facts : Facts) (site : SwapSite) (seconds : Int64) : Trade :=
  let amount := e.poolSideDelta site.mint
  { venue := site.venue
    mint := site.mint
    action := .ofPoolDelta amount
    computeLimit := facts.computeLimit.toUInt64
    computePrice := facts.computePrice.toUInt64
    amount
    signature := e.signature
    tip := facts.tip.map Tip.label
    tipAmount := facts.tipLamports
    status := if e.isFailed then .failed else .success
    signer := site.signer
    timestamp := seconds }

/-- Appends a trade to the history. -/
def record (trade : Trade) : WatchM Nat := do
  let w ← get
  match w.trades.insert? trade with
  | some (id, trades) =>
    set { w with trades }
    pure id
  | none => throw (.notRecorded trade)

/-- A swap: on a tracked venue, or by the bot, it is recorded.  Then the
    bot's own swaps go through the ledger and others' are shown to the
    strategy. -/
def handleSwap (s : Setup) (e : Envelope) (ix : CompiledInstruction) (facts : Facts) :
    WatchM (Option Nat) := do
  let site ← swapSite e ix
  let status ← onTrackers (Tracking.status site.venue)
  let own := site.signer = s.bot
  if !status.isTracked && !own then
    return none
  let trade := tradeOf e facts site (s.wallSeconds (← get))
  let id ← record trade
  if own then
    let w ← get
    let _ ← onTrackers (Tracking.handleSelfSwap s.policy (s.wallClock w) site.venue
      trade.amount.natAbs (!e.isFailed))
  else
    fire s (.otherSwap site.keys trade.action trade.amount site.signer e.signature)
  pure (some id)

/-! ## Scanning -/

/-- What a scan has gathered so far. -/
structure Scan where
  facts : Facts
  swap : Option CompiledInstruction

/-- Takes one instruction of the watched program. -/
def scanVenue (s : Setup) (e : Envelope) (scan : Scan) (ix : CompiledInstruction) :
    StateM State Scan := do
  match Instruction.decodeVenue ix.data with
  | .ok (.openPool ..) =>
    let _ ← attempt e.signature "initialize2" (handleOpening s e ix)
    pure scan
  | .ok (.withdraw _) =>
    let _ ← attempt e.signature "withdraw" (handleWithdraw s e ix)
    pure scan
  | .ok (.swapBaseIn ..) => pure { scan with swap := some ix }
  | _ => pure scan

/-- Takes one instruction.  Those of unknown programs are passed over. -/
def scanOne (s : Setup) (e : Envelope) (scan : Scan) (ix : CompiledInstruction) :
    StateM State Scan :=
  match e.programOf? ix with
  | none => pure scan
  | some program =>
    if program = Address.venueProgram then scanVenue s e scan ix
    else if program = Address.computeBudgetProgram then
      pure { scan with facts := scan.facts.afterBudget ix.data }
    else if program = Address.systemProgram then
      pure { scan with facts := scan.facts.afterTransfer e ix }
    else pure scan

/-- Takes instructions in order. -/
def scanAll (s : Setup) (e : Envelope) (scan : Scan) :
    List CompiledInstruction → StateM State Scan
  | [] => pure scan
  | ix :: rest => do scanAll s e (← scanOne s e scan ix) rest

/-! ## Envelopes -/

/-- What came of an envelope. -/
inductive Processed where
  | duplicate
  | done (tradeId : Option Nat)
  deriving DecidableEq, Repr

/-- Notes an envelope: its signature, and its block hash if it has one. -/
def noteArrival (s : Setup) (e : Envelope) (w : State) : State :=
  { w with
    seen := w.seen.note w.time s.window e.signature
    blockhash := if e.recentBlockhash ≠ .zero then e.recentBlockhash else w.blockhash }

/-- What is left to do when all instructions were taken: the last swap. -/
def conclude (s : Setup) (e : Envelope) (scan : Scan) : StateM State (Option Nat) := do
  match scan.swap with
  | none => pure none
  | some ix => pure (← attempt e.signature "swap" (handleSwap s e ix scan.facts)).join

/-- Handles an envelope that is no duplicate. -/
def handle (s : Setup) (e : Envelope) : StateM State (Option Nat) := do
  modify (noteArrival s e)
  conclude s e (← scanAll s e ⟨.none, none⟩ e.instructions)

/-- Takes an envelope from the feed. -/
def process (s : Setup) (e : Envelope) : StateM State Processed := do
  let w ← get
  if w.seen.remembers w.time e.signature then
    pure .duplicate
  else
    pure (.done (← handle s e))

end PoolWatch.Watcher
