import PoolWatch.Trade.Basic
import PoolWatch.Trade.Cell

/-! # Rows of the trade table

    A trade is written into a row of cells, and a row is read as a trade. -/

namespace PoolWatch

/-! ## Columns -/

/-- The columns of the table. -/
inductive Column where
  | id
  | venue
  | mint
  | action
  | computeLimit
  | computePrice
  | amount
  | signature
  | tip
  | tipAmount
  | status
  | signer
  | timestamp
  deriving DecidableEq, Repr

namespace Column

/-- The name of a column. -/
def name : Column → String
  | .id => "id"
  | .venue => "amm_id"
  | .mint => "mint"
  | .action => "action"
  | .computeLimit => "compute_limit"
  | .computePrice => "compute_price"
  | .amount => "amount"
  | .signature => "signature"
  | .tip => "tip"
  | .tipAmount => "tip_amount"
  | .status => "status"
  | .signer => "signer"
  | .timestamp => "timestamp"

/-- The columns that rows are written with, in order. -/
def written : List Column :=
  [.venue, .mint, .action, .computeLimit, .computePrice, .amount, .signature, .tip,
    .tipAmount, .status, .signer, .timestamp]

/-- The columns that may be searched. -/
def searchable : List Column :=
  .id :: written

/-- The column of a name. -/
def ofName? (name : String) : Option Column :=
  searchable.find? fun c => c.name = name

/-- How a column takes its values. -/
def affinity : Column → Affinity
  | .id => .numeric
  | .computeLimit => .numeric
  | .computePrice => .numeric
  | .tipAmount => .numeric
  | .timestamp => .numeric
  | _ => .textual

end Column

/-! ## Rows -/

/-- A row: its number, and a cell in each written column. -/
structure Row where
  id : Nat
  cells : Column → Cell

/-- The cell of a row in a column. -/
def Row.cell (r : Row) : Column → Cell
  | .id => .number (.whole r.id)
  | c => r.cells c

/-- The cells of a trade; nothing when a number does not fit the table. -/
def Trade.cells? (t : Trade) : Option (Column → Cell) :=
  if t.computeLimit.toNat < 0x8000000000000000 ∧ t.computePrice.toNat < 0x8000000000000000 then
    some fun
      | .id => .null
      | .venue => .text t.venue.text
      | .mint => .text t.mint.text
      | .action => .text t.action.name
      | .computeLimit => .number (.whole t.computeLimit.toNat)
      | .computePrice => .number (.whole t.computePrice.toNat)
      | .amount => .text (Text.Decimal.ofInt t.amount)
      | .signature => .text t.signature
      | .tip => (t.tip.map Cell.text).getD .null
      | .tipAmount => .number (.whole t.tipAmount.toInt)
      | .status => .text t.status.name
      | .signer => .text t.signer.text
      | .timestamp => .number (.whole t.timestamp.toInt)
  else none

/-! ## Reading rows -/

/-- Why a row is no trade. -/
inductive RowFault where
  | cellType (column : Column) (position : Nat) (cell : Cell)
  | outOfRange (value : Int) (position : Nat)
  | badVenue
  | badMint
  | badAmount
  | badSigner
  | badAction (name : String)
  | badStatus (name : String)

/-- The name of what a cell holds. -/
def Cell.typeName : Cell → String
  | .null => "Null"
  | .number (.whole _) => "Integer"
  | .number _ => "Real"
  | .text _ => "Text"

/-- What is wrong, as a sentence. -/
def RowFault.message : RowFault → String
  | .cellType column position cell =>
    "Invalid column type " ++ cell.typeName ++ " at index: " ++ Text.Decimal.ofNat position ++
      ", name: " ++ column.name
  | .outOfRange value position =>
    "Integer " ++ Text.Decimal.ofInt value ++ " out of range at index " ++
      Text.Decimal.ofNat position
  | .badVenue => "bad amm_id pubkey"
  | .badMint => "bad mint pubkey"
  | .badAmount => "bad amount"
  | .badSigner => "bad signer pubkey"
  | .badAction name => "unknown trade action " ++ name
  | .badStatus name => "unknown trade status " ++ name

namespace Row

/-- The position of a column among the written ones. -/
def position (c : Column) : Nat :=
  Column.written.idxOf c

/-- A text cell. -/
def textAt (r : Row) (c : Column) : Except RowFault String :=
  match r.cell c with
  | .text s => .ok s
  | cell => .error (.cellType c (position c) cell)

/-- A text cell, or nothing. -/
def optionalTextAt (r : Row) (c : Column) : Except RowFault (Option String) :=
  match r.cell c with
  | .text s => .ok (some s)
  | .null => .ok none
  | cell => .error (.cellType c (position c) cell)

/-- An integer cell. -/
def wholeAt (r : Row) (c : Column) : Except RowFault Int :=
  match r.cell c with
  | .number (.whole n) => .ok n
  | cell => .error (.cellType c (position c) cell)

/-- An integer cell that is not negative. -/
def naturalAt (r : Row) (c : Column) : Except RowFault UInt64 := do
  let n ← r.wholeAt c
  if n < 0 then throw (.outOfRange n (position c))
  pure (UInt64.ofNat n.toNat)

/-- A value or a fault in its place. -/
def orFault {α : Type} (fault : RowFault) : Option α → Except RowFault α
  | some a => .ok a
  | none => .error fault

/-- The trade of a row.  All cells are read before any text is understood. -/
def trade (r : Row) : Except RowFault Trade := do
  let venue ← r.textAt .venue
  let mint ← r.textAt .mint
  let action ← r.textAt .action
  let computeLimit ← r.naturalAt .computeLimit
  let computePrice ← r.naturalAt .computePrice
  let amount ← r.textAt .amount
  let signature ← r.textAt .signature
  let tip ← r.optionalTextAt .tip
  let tipAmount ← r.wholeAt .tipAmount
  let status ← r.textAt .status
  let signer ← r.textAt .signer
  let timestamp ← r.wholeAt .timestamp
  pure
    { venue := ← orFault .badVenue (Key.parse? venue)
      mint := ← orFault .badMint (Key.parse? mint)
      action := ← orFault (.badAction action) (TradeAction.ofName? action)
      computeLimit
      computePrice
      amount := ← orFault .badAmount (Text.Decimal.readSigned 128 amount).toOption
      signature
      tip
      tipAmount := Int64.ofInt tipAmount
      status := ← orFault (.badStatus status) (TradeStatus.ofName? status)
      signer := ← orFault .badSigner (Key.parse? signer)
      timestamp := Int64.ofInt timestamp }

end Row

end PoolWatch
