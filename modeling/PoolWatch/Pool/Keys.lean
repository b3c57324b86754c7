import PoolWatch.Account.Market
import PoolWatch.Account.Pool
import PoolWatch.Derived
import PoolWatch.Account.LookupTable
import PoolWatch.Envelope.Json

/-! # Pool keys

    Every account that a swap against one venue has to name, put together
    from the pool's record and its market's record, and the JSON form the
    store keeps them in: keys there are arrays of 32 numbers. -/

namespace PoolWatch

/-- The accounts of one venue. -/
structure PoolKeys where
  (id baseMint quoteMint lpMint : Key)
  (baseDecimals quoteDecimals version : UInt8)
  (programId authority openOrders targetOrders baseVault quoteVault withdrawQueue : Key)
  lpVault : Key
  marketVersion : UInt8
  (marketProgramId marketId marketAuthority marketBaseVault marketQuoteVault : Key)
  (marketBids marketAsks marketEventQueue : Key)
  deriving DecidableEq

namespace PoolKeys

/-- The version of every pool that is put together here. -/
def poolVersion : UInt8 := 4

/-- The version of every market that is put together here. -/
def orderBookVersion : UInt8 := 3

/-- Puts the keys together; a market nonce that gives no address leaves the
    market to the pools' own authority. -/
def assemble (id : Key) (pool : Account.PoolState) (market : Account.MarketState) : PoolKeys :=
  { id
    baseMint := pool.baseMint
    quoteMint := pool.quoteMint
    lpMint := pool.lpMint
    baseDecimals := pool.baseDecimals.toUInt8
    quoteDecimals := pool.quoteDecimals.toUInt8
    version := poolVersion
    programId := Address.venueProgram
    authority := Derived.venueAuthority
    openOrders := pool.openOrders
    targetOrders := pool.targetOrders
    baseVault := pool.baseVault
    quoteVault := pool.quoteVault
    withdrawQueue := pool.withdrawQueue
    lpVault := pool.lpVault
    marketVersion := orderBookVersion
    marketProgramId := pool.marketProgram
    marketId := pool.marketId
    marketAuthority :=
      (Derived.marketAuthority? pool.marketProgram pool.marketId market.vaultSignerNonce).getD
        Derived.venueAuthority
    marketBaseVault := market.baseVault
    marketQuoteVault := market.quoteVault
    marketBids := market.bids
    marketAsks := market.asks
    marketEventQueue := market.eventQueue }

/-- The mint that is not the native asset, and whether the native asset is
    the base side; nothing when neither side is native. -/
def mint? (k : PoolKeys) : Option (Key × Bool) :=
  if k.baseMint = Address.wrappedNative then some (k.quoteMint, true)
  else if k.quoteMint = Address.wrappedNative then some (k.baseMint, false)
  else none

/-- The vault on the native side. -/
def nativeVault? (k : PoolKeys) : Option Key :=
  k.mint?.map fun (_, nativeIsBase) => if nativeIsBase then k.baseVault else k.quoteVault

end PoolKeys

/-! ## Stored form -/

/-- The bytes of a key as numbers. -/
def Key.toNumbers (k : Key) : Json :=
  .array (k.bytes.map fun b => .nat b.toNat)

/-- A key from its bytes as numbers. -/
def Key.ofNumbers? (j : Json) : Option Key :=
  (j.list? Json.byte?).bind Key.ofBytes?

namespace PoolKeys

/-- The names of the stored fields, in order. -/
def fieldNames : List String :=
  ["id", "base_mint", "quote_mint", "lp_mint", "base_decimals", "quote_decimals", "version",
    "program_id", "authority", "open_orders", "target_orders", "base_vault", "quote_vault",
    "withdraw_queue", "lp_vault", "market_version", "market_program_id", "market_id",
    "market_authority", "market_base_vault", "market_quote_vault", "market_bids",
    "market_asks", "market_event_queue"]

/-- Writes the keys. -/
def toJson (k : PoolKeys) : Json :=
  .record [("id", k.id.toNumbers), ("base_mint", k.baseMint.toNumbers),
    ("quote_mint", k.quoteMint.toNumbers), ("lp_mint", k.lpMint.toNumbers),
    ("base_decimals", .nat k.baseDecimals.toNat), ("quote_decimals", .nat k.quoteDecimals.toNat),
    ("version", .nat k.version.toNat), ("program_id", k.programId.toNumbers),
    ("authority", k.authority.toNumbers), ("open_orders", k.openOrders.toNumbers),
    ("target_orders", k.targetOrders.toNumbers), ("base_vault", k.baseVault.toNumbers),
    ("quote_vault", k.quoteVault.toNumbers), ("withdraw_queue", k.withdrawQueue.toNumbers),
    ("lp_vault", k.lpVault.toNumbers), ("market_version", .nat k.marketVersion.toNat),
    ("market_program_id", k.marketProgramId.toNumbers), ("market_id", k.marketId.toNumbers),
    ("market_authority", k.marketAuthority.toNumbers),
    ("market_base_vault", k.marketBaseVault.toNumbers),
    ("market_quote_vault", k.marketQuoteVault.toNumbers),
    ("market_bids", k.marketBids.toNumbers), ("market_asks", k.marketAsks.toNumbers),
    ("market_event_queue", k.marketEventQueue.toNumbers)]

/-- Reads the keys; every field has to be there. -/
def ofJson? (j : Json) : Option PoolKeys := do
  let [some id, some baseMint, some quoteMint, some lpMint, some baseDecimals,
    some quoteDecimals, some version, some programId, some authority, some openOrders,
    some targetOrders, some baseVault, some quoteVault, some withdrawQueue, some lpVault,
    some marketVersion, some marketProgramId, some marketId, some marketAuthority,
    some marketBaseVault, some marketQuoteVault, some marketBids, some marketAsks,
    some marketEventQueue] ← j.fields? fieldNames | none
  pure
    { id := ← Key.ofNumbers? id
      baseMint := ← Key.ofNumbers? baseMint
      quoteMint := ← Key.ofNumbers? quoteMint
      lpMint := ← Key.ofNumbers? lpMint
      baseDecimals := ← baseDecimals.byte?
      quoteDecimals := ← quoteDecimals.byte?
      version := ← version.byte?
      programId := ← Key.ofNumbers? programId
      authority := ← Key.ofNumbers? authority
      openOrders := ← Key.ofNumbers? openOrders
      targetOrders := ← Key.ofNumbers? targetOrders
      baseVault := ← Key.ofNumbers? baseVault
      quoteVault := ← Key.ofNumbers? quoteVault
      withdrawQueue := ← Key.ofNumbers? withdrawQueue
      lpVault := ← Key.ofNumbers? lpVault
      marketVersion := ← marketVersion.byte?
      marketProgramId := ← Key.ofNumbers? marketProgramId
      marketId := ← Key.ofNumbers? marketId
      marketAuthority := ← Key.ofNumbers? marketAuthority
      marketBaseVault := ← Key.ofNumbers? marketBaseVault
      marketQuoteVault := ← Key.ofNumbers? marketQuoteVault
      marketBids := ← Key.ofNumbers? marketBids
      marketAsks := ← Key.ofNumbers? marketAsks
      marketEventQueue := ← Key.ofNumbers? marketEventQueue }

end PoolKeys

namespace Account.LookupTable

/-- Writes the content of a lookup table. -/
def toJson (t : LookupTable) : Json :=
  .record [("deactivation_slot", .nat t.deactivationSlot.toNat),
    ("last_extended_slot", .nat t.lastExtendedSlot.toNat),
    ("last_extended_slot_start_index", .nat t.lastExtendedStart.toNat),
    ("authority", (t.authority.map Key.toNumbers).getD .null),
    ("addresses", .array (t.addresses.map Key.toNumbers))]

/-- An authority: missing and null are none. -/
def authorityOfJson? : Option Json → Option (Option Key)
  | none => some none
  | some .null => some none
  | some j => (Key.ofNumbers? j).map some

/-- Reads the content of a lookup table. -/
def ofJson? (j : Json) : Option LookupTable := do
  let [some deactivation, some extended, some start, authority, some addresses] ←
    j.fields? ["deactivation_slot", "last_extended_slot", "last_extended_slot_start_index",
      "authority", "addresses"] | none
  pure
    { deactivationSlot := ← deactivation.word64?
      lastExtendedSlot := ← extended.word64?
      lastExtendedStart := ← start.byte?
      authority := ← authorityOfJson? authority
      addresses := ← addresses.list? Key.ofNumbers? }

end Account.LookupTable

end PoolWatch
