import PoolWatch.Json.Value

/-! # The liquidation ledger

    A position is sold in stages.  The ledger holds what was bought, what is
    left of it and the size of a stage; every own swap draws on what is
    left, and a swap past the end leaves nothing. -/

namespace PoolWatch.Tracking

/-- What is left to sell of one venue's token. -/
structure Ledger where
  total : Nat
  remaining : Nat
  stage : Nat
  deriving DecidableEq, Repr

namespace Ledger

/-- A ledger over the whole amount; a splitter of zero counts as one. -/
def start (total : Nat) (splitter : UInt64) : Ledger :=
  ⟨total, total, total / max splitter.toNat 1⟩

/-- Draws an amount; what is left stops at zero. -/
def consume (l : Ledger) (amount : Nat) : Ledger :=
  { l with remaining := l.remaining - amount }

/-- Nothing is left. -/
def isExhausted (l : Ledger) : Bool :=
  l.remaining = 0

/-- The largest amount that fits in 128 bits. -/
def maxAmount : Nat := 0xffffffffffffffffffffffffffffffff

/-- Reads a ledger. -/
def ofJson? (j : Json) : Option Ledger := do
  let [some total, some remaining, some stage] ← j.fields? ["total", "remaining", "chunk"] | none
  pure
    { total := ← total.nat? maxAmount
      remaining := ← remaining.nat? maxAmount
      stage := ← stage.nat? maxAmount }

/-- Writes a ledger. -/
def toJson (l : Ledger) : Json :=
  .record [("total", .nat l.total), ("remaining", .nat l.remaining), ("chunk", .nat l.stage)]

end Ledger

end PoolWatch.Tracking
