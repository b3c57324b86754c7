import PoolWatch.Envelope.Basic
import PoolWatch.Instruction
import PoolWatch.Channel

/-! # Scanned facts

    What the instructions around a swap say about it: the compute limit and
    price that were asked for, and the tip that was paid.  Of several such
    instructions the last one counts. -/

namespace PoolWatch.Watcher

/-- A payment to a known tip account. -/
structure Tip where
  label : String
  lamports : Int64
  deriving DecidableEq, Repr

/-- What was gathered about the swap of an envelope. -/
structure Facts where
  computeLimit : UInt32
  computePrice : UInt32
  tip : Option Tip
  deriving DecidableEq, Repr

/-- Nothing asked for and no tip. -/
def Facts.none : Facts := ⟨0, 0, .none⟩

/-- The lamports of the tip, zero without one. -/
def Facts.tipLamports (f : Facts) : Int64 :=
  (f.tip.map Tip.lamports).getD 0

/-- Whose tip account a key is. -/
def tipLabel? (destination : Key) : Option String :=
  if destination ∈ Address.blockEngineTips then some Channel.blockEngine.name
  else if destination = Address.relayTip then some Channel.paidRelay.name
  else Option.none

/-- The tip that a native transfer pays.  Its destination has to be a static
    key of the message. -/
def tip? (e : Envelope) (ix : CompiledInstruction) : Option Tip := do
  let .transfer op amount := Instruction.decodeTransfer ix.data | Option.none
  if op ≠ Instruction.transferOp then Option.none
  let index ← ix.accounts[1]?
  let destination ← e.accountKeys[index.toNat]?
  let label ← tipLabel? destination
  pure ⟨label, amount⟩

/-- The facts after a compute-budget instruction. -/
def Facts.afterBudget (f : Facts) (data : Bytes) : Facts :=
  match Instruction.decodeComputeBudget data with
  | .computeBudget op value =>
    if op = Instruction.computeLimitOp then { f with computeLimit := value }
    else if op = Instruction.computePriceOp then { f with computePrice := value }
    else f
  | _ => f

/-- The facts after a native transfer. -/
def Facts.afterTransfer (f : Facts) (e : Envelope) (ix : CompiledInstruction) : Facts :=
  match tip? e ix with
  | some tip => { f with tip := some tip }
  | Option.none => f

end PoolWatch.Watcher
