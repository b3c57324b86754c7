import PoolWatch.Proofs.Text.Decimal
import PoolWatch.Proofs.Text.KeyText
import PoolWatch.Trade.History

/-! # Rows of trades

    A trade whose numbers fit the table is appended under the next number,
    and its row reads back as the trade. -/

namespace PoolWatch

/-- A trade whose numbers fit the table. -/
structure Trade.Fits (t : Trade) : Prop where
  computeLimit_lt : t.computeLimit.toNat < 0x8000000000000000
  computePrice_lt : t.computePrice.toNat < 0x8000000000000000
  le_amount : -(2 ^ 127 : Int) ≤ t.amount
  amount_lt : t.amount < (2 ^ 127 : Int)

/-- The row of a trade. -/
def Trade.row (t : Trade) (id : Nat) : Row :=
  ⟨id, t.cells?.getD fun _ => .null⟩

/-- The history with one more trade. -/
def TradeHistory.withTrade (h : TradeHistory) (t : Trade) : TradeHistory :=
  ⟨t.row (h.lastId + 1) :: h.rows, h.lastId + 1⟩

namespace TradeAction

@[simp] theorem ofName?_name (a : TradeAction) : ofName? a.name = some a := by
  cases a <;> rfl

end TradeAction

namespace TradeStatus

@[simp] theorem ofName?_name (s : TradeStatus) : ofName? s.name = some s := by
  cases s <;> rfl

end TradeStatus

/-! ## Cells -/

namespace Row

variable {r : Row} {c : Column}

theorem textAt_of_cell {text : String} (h : r.cell c = .text text) : r.textAt c = .ok text := by
  unfold textAt
  rw [h]

theorem optionalTextAt_of_cell {text : Option String}
    (h : r.cell c = (text.map Cell.text).getD .null) : r.optionalTextAt c = .ok text := by
  unfold optionalTextAt
  rw [h]
  cases text <;> rfl

theorem wholeAt_of_cell {n : Int} (h : r.cell c = .number (.whole n)) : r.wholeAt c = .ok n := by
  unfold wholeAt
  rw [h]

theorem naturalAt_of_cell {n : UInt64} (h : r.cell c = .number (.whole n.toNat)) :
    r.naturalAt c = .ok n := by
  -- what is stored of a natural number is never negative
  have hnonneg : ¬ (n.toNat : Int) < 0 := by omega
  unfold naturalAt
  rw [wholeAt_of_cell h]
  simp only [bind, Except.bind]
  rw [if_neg hnonneg]
  exact congrArg Except.ok UInt64.ofNat_toNat

end Row

/-! ## Trades -/

namespace Trade

variable {t : Trade}

theorem Fits.insert? (h : t.Fits) (history : TradeHistory) :
    history.insert? t = some (history.lastId + 1, history.withTrade t) := by
  have hlimits := And.intro h.computeLimit_lt h.computePrice_lt
  unfold TradeHistory.insert? TradeHistory.withTrade row cells?
  rw [if_pos hlimits]
  rfl

/-- What was appended reads back as it was. -/
theorem Fits.trade_row (h : t.Fits) (id : Nat) : (t.row id).trade = .ok t := by
  have hlimits := And.intro h.computeLimit_lt h.computePrice_lt
  have hamount : Text.Decimal.readSigned 128 (Text.Decimal.ofInt t.amount) = .ok t.amount :=
    Text.Decimal.readSigned_ofInt h.le_amount h.amount_lt
  unfold row cells?
  rw [if_pos hlimits, Option.getD_some]
  unfold Row.trade
  rw [Row.textAt_of_cell rfl, Row.textAt_of_cell rfl, Row.textAt_of_cell rfl,
    Row.naturalAt_of_cell rfl, Row.naturalAt_of_cell rfl, Row.textAt_of_cell rfl,
    Row.textAt_of_cell rfl, Row.optionalTextAt_of_cell rfl, Row.wholeAt_of_cell rfl,
    Row.textAt_of_cell rfl, Row.textAt_of_cell rfl, Row.wholeAt_of_cell rfl]
  -- every cell was read; what is left is to understand the texts
  simp only [bind, Except.bind, Key.parse?_text, TradeAction.ofName?_name, hamount,
    TradeStatus.ofName?_name, Int64.ofInt_toInt, Row.orFault, Except.toOption]
  rfl

/-- The last row tells the trade that was appended. -/
theorem Fits.withTrade_inj (h : t.Fits) {t' : Trade} (h' : t'.Fits) {history : TradeHistory}
    (heq : history.withTrade t = history.withTrade t') : t = t' := by
  have hrows : t.row (history.lastId + 1) = t'.row (history.lastId + 1) :=
    List.head_eq_of_cons_eq (congrArg TradeHistory.rows heq)
  have hread := congrArg Row.trade hrows
  rw [h.trade_row, h'.trade_row] at hread
  exact Except.ok.inj hread

end Trade

end PoolWatch
