import PoolWatch.Trade.Statement

/-! # The trade history

    A table that trades are appended to, newest first, and searched in.  Rows
    are numbered from one; numbers are never given twice, also after the
    table was emptied.

    The page that a search answers with starts at the newest row that passes
    all conditions. -/

namespace PoolWatch

/-- The rows, newest first, and the last number given out. -/
structure TradeHistory where
  rows : List Row
  /-- It is counted without a bound.  The table's own numbers end at
      2 ^ 63 - 1, which no history of appended rows comes to. -/
  lastId : Nat

namespace TradeHistory

/-- No rows, and no number given out. -/
def empty : TradeHistory := ⟨[], 0⟩

/-- Appends a row of cells under the next number. -/
def append (h : TradeHistory) (cells : Column → Cell) : TradeHistory :=
  ⟨⟨h.lastId + 1, cells⟩ :: h.rows, h.lastId + 1⟩

/-- Appends a trade; nothing when a number does not fit the table. -/
def insert? (h : TradeHistory) (t : Trade) : Option (Nat × TradeHistory) :=
  t.cells?.map fun cells => (h.lastId + 1, h.append cells)

/-- What is said of a trade that could not be appended. -/
def insertMessage (t : Trade) : String :=
  "insert trade " ++ t.signature

/-- Appends a row of plain values, each as its column takes it. -/
def insertCells (h : TradeHistory) (values : List Cell) : TradeHistory :=
  h.append fun c => c.affinity.store ((values[Row.position c]?).getD .null)

/-- The trades of a page.  The first row of it that is no trade refuses it. -/
def search (h : TradeHistory) (f : TradeFilter) :
    Except SearchError (List Trade) := do
  let (statement, values) ← f.statement
  match Trade.Statement.ofText? statement.text with
  | none => throw .notPrepared
  | some prepared =>
    match (prepared.page values h.rows).mapM Row.trade with
    | .ok trades => pure trades
    | .error fault => throw (.badRow fault)

/-- Deletes every row, and says how many there were. -/
def clear (h : TradeHistory) : Nat × TradeHistory :=
  (h.rows.length, ⟨[], h.lastId⟩)

end TradeHistory

end PoolWatch
