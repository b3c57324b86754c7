import PoolWatch.Account.Codec

/-! # Market accounts

    The record of an order-book market: 388 bytes, with five bytes of
    padding in front and seven behind. -/

namespace PoolWatch.Account

/-- The record of an order-book market. -/
structure MarketState where
  headPadding : FixedBytes 5
  accountFlags : FixedBytes 8
  ownAddress : Key
  vaultSignerNonce : UInt64
  (baseMint quoteMint baseVault : Key)
  (baseDeposits baseFees : UInt64)
  quoteVault : Key
  (quoteDeposits quoteFees quoteDustThreshold : UInt64)
  (requestQueue eventQueue bids asks : Key)
  (baseLotSize quoteLotSize feeRateBps referrerRebates : UInt64)
  tailPadding : FixedBytes 7
  deriving DecidableEq

namespace MarketState

/-- The fields in the order of the record, as a nested tuple. -/
def tuple (s : MarketState) :=
  (s.headPadding, s.accountFlags, s.ownAddress, s.vaultSignerNonce, s.baseMint, s.quoteMint,
  s.baseVault, s.baseDeposits, s.baseFees, s.quoteVault, s.quoteDeposits, s.quoteFees,
  s.quoteDustThreshold, s.requestQueue, s.eventQueue, s.bids, s.asks, s.baseLotSize,
  s.quoteLotSize, s.feeRateBps, s.referrerRebates, s.tailPadding)

open Codec in
/-- The fields one after another. -/
def codec : Codec MarketState :=
  map
   ((raw 5).pair <| (raw 8).pair <| key.pair <| word.pair <| key.pair <| key.pair <|
    key.pair <| word.pair <| word.pair <| key.pair <| word.pair <| word.pair <| word.pair <|
    key.pair <| key.pair <| key.pair <| key.pair <| word.pair <| word.pair <| word.pair <|
    word.pair <| (raw 7))
    (fun (x0, x1, x2, x3, x4, x5, x6, x7, x8, x9, x10, x11, x12, x13, x14, x15, x16, x17, x18,
        x19, x20, x21) =>
      ⟨x0, x1, x2, x3, x4, x5, x6, x7, x8, x9, x10, x11, x12, x13, x14, x15, x16, x17, x18,
        x19, x20, x21⟩)
    tuple (fun _ => rfl) (fun _ => rfl)

example : codec.width = 388 := rfl

end MarketState

end PoolWatch.Account
