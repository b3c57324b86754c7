import PoolWatch.Key

/-! # Known addresses

    The fixed programs and accounts of the chain.  Each is given as the
    number its 32 bytes write, and its text form stands beside it. -/

namespace PoolWatch.Address

/-- The wrapped form of the chain's native asset.
    Written `So11111111111111111111111111111111111111112`. -/
def wrappedNative : Key :=
  .ofNat 0x069b8857feab8184fb687f634618c035dac439dc1aeb3b5598a0f00000000001

/-- The program of the pools that are watched.
    Written `675kPX9MHTjS2zt1qfr1NYHuzeLXfQM9H24wFSUt1Mp8`. -/
def venueProgram : Key :=
  .ofNat 0x4bd949c43602c33f207790ed16a3524ca1b9975cf121a2a90cffec7df8b68acd

/-- The order-book program whose swaps carry one more account.
    Written `srmqPvymJeFKQ4zGQed1GFppgkRHL9kaELCbyksJtPX`. -/
def orderBookProgram : Key :=
  .ofNat 0x0d0751a8282da61305fe299c37b998e58471db1135037310f8be1045a60af6ee

/-- The owner of every vault of the watched pools.
    Written `5Q544fKrFoe6tsEbD7S8EmxGTJYAKtTVhAW5Q5pge4j1`. -/
def vaultAuthority : Key :=
  .ofNat 0x4157b0580f31c5fce44a62582dbcf9d78ee75943a084a393b350368d22899308

/-- The program that takes compute limits and prices.
    Written `ComputeBudget111111111111111111111111111111`. -/
def computeBudgetProgram : Key :=
  .ofNat 0x0306466fe5211732ffecadba72c39be7bc8ce5bbc5f7126b2c439b3a40000000

/-- The program that moves native lamports.
    Written `11111111111111111111111111111111`. -/
def systemProgram : Key :=
  .ofNat 0x0000000000000000000000000000000000000000000000000000000000000000

/-- The program that holds token accounts.
    Written `TokenkegQfeZyiNwAJbNbGKPFXCWuBvf9Ss623VQ5DA`. -/
def tokenProgram : Key :=
  .ofNat 0x06ddf6e1d765a193d9cbe146ceeb79ac1cb485ed5f5b37913a8cf5857eff00a9

/-- The program that derives and opens a wallet's token accounts.
    Written `ATokenGPvbdGVxr1b2hvZbsiqW5xWH25efTNsLJA8knL`. -/
def tokenAccountProgram : Key :=
  .ofNat 0x8c97258f4e2489f1bb3d1029148e0d830b5a1399daff1084048e7bd8dbe9f859

/-- The program the paid relay reads its memo from.
    Written `HQ2UUt18uJqKaQFJhgV9zaTdQxUZjNrsKFgoEDquBkcx`. -/
def memoProgram : Key :=
  .ofNat 0xf3a1040fd825bf858c1dd25c86f3f6659bc33d0aba3e789a62a52caec999f781

/-- The account that the paid relay's tips go to.
    Written `HWEoBxYs7ssKuudEjzjmpfJVX7Dvi7wescFsVx2L5yoY`. -/
def relayTip : Key :=
  .ofNat 0xf5386f12bd97559f86e46eba13787b28f8d3c24268e6b9f103667e1fa055289b

/-- The accounts that the block engine's tips go to. -/
def blockEngineTips : List Key := [
  .ofNat 0x78521cb179cebb8589b556a2d5ec94d2498682fdf9bb2af5ad64e491cc4153da,
  .ofNat 0xf187ec87d1f745cb3a03384a26a69eda0ca2d1aa0f41e42416377e91ff5b5d31,
  .ofNat 0xb14e0de55e9fba86396ebfd548cff8c92011eac7b75baa9b2d9c6a86f5a17141,
  .ofNat 0x88f1ffa3a2dfe617bdc4e3573251a322e3fcae81e5a457390e64751c00a465e2,
  .ofNat 0xbc2b57065ef1dd665430be606ba6596c0295301badef8b5afc41014150f41274,
  .ofNat 0x89077d55a5bb1330763eb767f55ec077b41a0d075f7de1d73fbaca3c63d55471,
  .ofNat 0xbf971b59108b5b85a04fb093f1e21b4e3fd4c4c8f487dd09b95752769f0dd8c3,
  .ofNat 0x2026101ec20328964a32abab136c5405b91f3ae38ee4f64cb6bde879b86838d2]

/-- The text that the paid relay asks for in every transaction. -/
def memoText : String := "Powered by bloXroute Trader Api"

/-- The seed of the watched program's authority. -/
def authoritySeed : Bytes := "amm authority".toUTF8.toList

/-- Lamports in one unit of the native asset. -/
def lamportsPerUnit : UInt64 := 1000000000

end PoolWatch.Address
