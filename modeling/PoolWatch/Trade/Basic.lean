import PoolWatch.Key
import PoolWatch.Text.Decimal

/-! # Trades

    One observed swap against a venue, as it is recorded. -/

namespace PoolWatch

/-- Which way a swap went, seen from the trader. -/
inductive TradeAction where
  | buy
  | sell
  deriving DecidableEq, Repr

namespace TradeAction

/-- The pool lost tokens, so someone bought; else someone sold. -/
def ofPoolDelta (delta : Int) : TradeAction :=
  if 0 < delta then .buy else .sell

theorem ofPoolDelta_eq_buy_iff (delta : Int) : ofPoolDelta delta = .buy ↔ 0 < delta := by
  unfold ofPoolDelta
  split <;> simp_all

/-- The name of an action. -/
def name : TradeAction → String
  | .buy => "BUY"
  | .sell => "SELL"

/-- The action of a name. -/
def ofName? : String → Option TradeAction
  | "BUY" => some .buy
  | "SELL" => some .sell
  | _ => none

end TradeAction

/-- Whether the transaction went through. -/
inductive TradeStatus where
  | success
  | failed
  deriving DecidableEq, Repr

namespace TradeStatus

/-- The name of a status. -/
def name : TradeStatus → String
  | .success => "success"
  | .failed => "failed"

/-- The status of a name. -/
def ofName? : String → Option TradeStatus
  | "success" => some .success
  | "failed" => some .failed
  | _ => none

end TradeStatus

/-- One observed swap. -/
structure Trade where
  venue : Key
  mint : Key
  action : TradeAction
  computeLimit : UInt64
  computePrice : UInt64
  /-- Tokens the pool paid out, negative when it took them in. -/
  amount : Int
  signature : String
  /-- Whom the transaction tipped, if anyone. -/
  tip : Option String
  tipAmount : Int64
  status : TradeStatus
  signer : Key
  /-- Seconds since the epoch. -/
  timestamp : Int64
  deriving DecidableEq

end PoolWatch
