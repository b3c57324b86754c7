import PoolWatch.Account.Codec

/-! # Pool accounts

    The record of one watched pool: 752 bytes of settings, counters and the
    keys of everything that belongs to the pool. -/

namespace PoolWatch.Account

/-- The record of a pool. -/
structure PoolState where
  (status nonce maxOrder depth baseDecimals quoteDecimals state resetFlag minSize : UInt64)
  (volumeMaxCutRatio amountWaveRatio baseLotSize quoteLotSize minPriceMultiplier : UInt64)
  (maxPriceMultiplier systemDecimals minSeparateNumerator minSeparateDenominator : UInt64)
  (tradeFeeNumerator tradeFeeDenominator profitNumerator profitDenominator : UInt64)
  (swapFeeNumerator swapFeeDenominator baseProfitDue quoteProfitDue : UInt64)
  (quoteProfitTotal baseProfitTotal openTime punishQuoteAmount punishBaseAmount : UInt64)
  orderBookInitTime : UInt64
  (swapBaseIn swapQuoteOut : Word128)
  swapBaseToQuoteFee : UInt64
  (swapQuoteIn swapBaseOut : Word128)
  swapQuoteToBaseFee : UInt64
  (baseVault quoteVault baseMint quoteMint lpMint openOrders marketId marketProgram : Key)
  (targetOrders withdrawQueue lpVault owner : Key)
  lpReserve : UInt64
  padding : UInt64 × UInt64 × UInt64
  deriving DecidableEq

namespace PoolState

/-- The fields in the order of the record, as a nested tuple. -/
def tuple (s : PoolState) :=
  (s.status, s.nonce, s.maxOrder, s.depth, s.baseDecimals, s.quoteDecimals, s.state,
  s.resetFlag, s.minSize, s.volumeMaxCutRatio, s.amountWaveRatio, s.baseLotSize,
  s.quoteLotSize, s.minPriceMultiplier, s.maxPriceMultiplier, s.systemDecimals,
  s.minSeparateNumerator, s.minSeparateDenominator, s.tradeFeeNumerator, s.tradeFeeDenominator,
  s.profitNumerator, s.profitDenominator, s.swapFeeNumerator, s.swapFeeDenominator,
  s.baseProfitDue, s.quoteProfitDue, s.quoteProfitTotal, s.baseProfitTotal, s.openTime,
  s.punishQuoteAmount, s.punishBaseAmount, s.orderBookInitTime, s.swapBaseIn, s.swapQuoteOut,
  s.swapBaseToQuoteFee, s.swapQuoteIn, s.swapBaseOut, s.swapQuoteToBaseFee, s.baseVault,
  s.quoteVault, s.baseMint, s.quoteMint, s.lpMint, s.openOrders, s.marketId, s.marketProgram,
  s.targetOrders, s.withdrawQueue, s.lpVault, s.owner, s.lpReserve, s.padding)

open Codec in
/-- The fields one after another. -/
def codec : Codec PoolState :=
  map
   (word.pair <| word.pair <| word.pair <| word.pair <| word.pair <| word.pair <| word.pair <|
    word.pair <| word.pair <| word.pair <| word.pair <| word.pair <| word.pair <| word.pair <|
    word.pair <| word.pair <| word.pair <| word.pair <| word.pair <| word.pair <| word.pair <|
    word.pair <| word.pair <| word.pair <| word.pair <| word.pair <| word.pair <| word.pair <|
    word.pair <| word.pair <| word.pair <| word.pair <| wide.pair <| wide.pair <| word.pair <|
    wide.pair <| wide.pair <| word.pair <| key.pair <| key.pair <| key.pair <| key.pair <|
    key.pair <| key.pair <| key.pair <| key.pair <| key.pair <| key.pair <| key.pair <|
    key.pair <| word.pair <| (word.pair (word.pair word)))
    (fun (x0, x1, x2, x3, x4, x5, x6, x7, x8, x9, x10, x11, x12, x13, x14, x15, x16, x17, x18,
        x19, x20, x21, x22, x23, x24, x25, x26, x27, x28, x29, x30, x31, x32, x33, x34, x35,
        x36, x37, x38, x39, x40, x41, x42, x43, x44, x45, x46, x47, x48, x49, x50, x51) =>
      ⟨x0, x1, x2, x3, x4, x5, x6, x7, x8, x9, x10, x11, x12, x13, x14, x15, x16, x17, x18,
        x19, x20, x21, x22, x23, x24, x25, x26, x27, x28, x29, x30, x31, x32, x33, x34, x35,
        x36, x37, x38, x39, x40, x41, x42, x43, x44, x45, x46, x47, x48, x49, x50, x51⟩)
    tuple (fun _ => rfl) (fun _ => rfl)

example : codec.width = 752 := rfl

end PoolState

end PoolWatch.Account
