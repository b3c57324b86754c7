import PoolWatch.Channel
import PoolWatch.Derived
import PoolWatch.Instruction
import PoolWatch.Registry.Basic
import PoolWatch.Trade.Basic
import PoolWatch.Transaction.Signing

/-! # Assembling swaps

    The calls of one swap in their order: compute limit and price when set,
    the opening of the token account before a buy, the swap itself, and on
    the paid relay a tip when set and the relay's memo.  Then the signed
    transaction that carries them. -/

namespace PoolWatch

/-- Compute units asked for, and the price offered for each. -/
structure ComputeUnits where
  limit : UInt32
  price : UInt64
  deriving DecidableEq, Repr

/-- Settings that all swaps of a process share. -/
structure SwapOptions where
  /-- Lamports paid to the paid relay; zero pays nothing. -/
  tipLamports : UInt64
  lookupTable : Option TableAccount
  deriving DecidableEq

/-- One swap to be sent. -/
structure SwapOrder where
  keys : PoolKeys
  action : TradeAction
  amountIn : UInt64
  minimumOut : UInt64
  compute : ComputeUnits
  deriving DecidableEq

/-- Why a swap could not be built. -/
inductive BuildError where
  | pool (error : PoolError)
  | compile (error : CompileError)
  deriving DecidableEq

/-- What is wrong, as a sentence. -/
def BuildError.message : BuildError → String
  | .pool e => e.message
  | .compile e => "message compile: " ++ e.message

namespace Swap

/-! ## Single calls -/

/-- The swap itself.  Only pools of the present version are given their
    target orders. -/
def swapBaseIn (keys : PoolKeys) (source destination owner : Key)
    (amountIn minimumOut : UInt64) : Call :=
  { program := keys.programId
    accounts :=
      [.readonly Address.tokenProgram false, .writable keys.id false,
        .readonly keys.authority false, .writable keys.openOrders false] ++
      (if keys.version = PoolKeys.poolVersion then [.writable keys.targetOrders false] else []) ++
      [.writable keys.baseVault false, .writable keys.quoteVault false,
        .readonly keys.marketProgramId false, .writable keys.marketId false,
        .writable keys.marketBids false, .writable keys.marketAsks false,
        .writable keys.marketEventQueue false, .writable keys.marketBaseVault false,
        .writable keys.marketQuoteVault false, .readonly keys.marketAuthority false,
        .writable source false, .writable destination false, .readonly owner true]
    data := Instruction.encodeSwap amountIn minimumOut }

/-- The tip to the paid relay. -/
def relayTip (payer : Key) (lamports : UInt64) : Call :=
  { program := Address.systemProgram
    accounts := [.writable payer true, .writable Address.relayTip false]
    data := leOfWord32 Instruction.transferOp ++ leOfWord64 lamports }

/-- The memo that the paid relay asks for. -/
def relayMemo : Call :=
  { program := Address.memoProgram
    accounts := []
    data := Address.memoText.toUTF8.toList }

/-- Sets the compute limit. -/
def computeLimit (limit : UInt32) : Call :=
  ⟨Address.computeBudgetProgram, [], Instruction.computeLimitOp :: leOfWord32 limit⟩

/-- Sets the compute price. -/
def computePrice (price : UInt64) : Call :=
  ⟨Address.computeBudgetProgram, [], Instruction.computePriceOp :: leOfWord64 price⟩

/-- Opens a wallet's account for a token, if it is not open yet. -/
def openTokenAccount (payer mint : Key) : Call :=
  { program := Address.tokenAccountProgram
    accounts :=
      [.writable payer true, .writable (Derived.tokenAccount payer mint) false,
        .readonly payer false, .readonly mint false, .readonly Address.systemProgram false,
        .readonly Address.tokenProgram false]
    data := [1] }

/-! ## The whole swap -/

/-- The calls of a swap sent on a channel. -/
def calls (payer native : Key) (options : SwapOptions) (order : SwapOrder) (channel : Channel) :
    Except BuildError (List Call) :=
  match order.keys.mint? with
  | none => .error (.pool .neitherMintIsNative)
  | some (mint, _) =>
    let token := Derived.tokenAccount payer mint
    let limit := if 0 < order.compute.limit then [computeLimit order.compute.limit] else []
    let price := if 0 < order.compute.price then [computePrice order.compute.price] else []
    let swap (source destination : Key) :=
      swapBaseIn order.keys source destination payer order.amountIn order.minimumOut
    let trade :=
      match order.action with
      | .buy => [openTokenAccount payer mint, swap native token]
      | .sell => [swap token native]
    let relay :=
      match channel with
      | .paidRelay =>
        let tip := if 0 < options.tipLamports then [relayTip payer options.tipLamports] else []
        tip ++ [relayMemo]
      | _ => []
    .ok (limit ++ price ++ trade ++ relay)

/-- The compiled message of a swap. -/
def message (payer native : Key) (options : SwapOptions) (order : SwapOrder) (channel : Channel)
    (blockhash : Key) : Except BuildError Message :=
  match calls payer native options order channel with
  | .error e => .error e
  | .ok cs =>
    match Message.compile payer cs options.lookupTable.toList blockhash with
    | .error e => .error (.compile e)
    | .ok m => .ok m

end Swap

namespace Swap

/-- The signed transaction of a swap, paid for by the seed's key. -/
def transaction (seed : Bytes) (native : Key) (options : SwapOptions) (order : SwapOrder)
    (channel : Channel) (blockhash : Key) : Except BuildError Transaction :=
  (message (keyOfSeed seed) native options order channel blockhash).map
    (Transaction.signed seed)

end Swap

end PoolWatch
