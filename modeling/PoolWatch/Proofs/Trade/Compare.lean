import PoolWatch.Proofs.Text.Order
import PoolWatch.Proofs.Trade.Numeral
import PoolWatch.Proofs.Trade.Search

/-! # What a comparison finds

    A query holds a column against a text.  In a column of numbers the text
    of an integer is taken for that integer, so the query compares integers
    (`passes_of_number?`).  An amount has more bits than the numbers of the
    table and is kept as its text, so a query for it compares texts
    (`passes_amount`): nine is not found below ten.

    `search_compares` says what a search for one comparison finds in either
    kind of column, and for which amounts the texts are in the order of the
    integers. -/

namespace PoolWatch

/-! ## What an operator asks for -/

namespace Operator

section Relates

variable {α : Type} [LT α] [LE α]

/-- The relation that an operator asks for, on anything with an order. -/
def Relates (o : Operator) (a b : α) : Prop :=
  match o with
  | .equal => a = b
  | .unequal => a ≠ b
  | .less => a < b
  | .atMost => a ≤ b
  | .greater => b < a
  | .atLeast => b ≤ a
  | .like => False

instance [DecidableEq α] [DecidableLT α] [DecidableLE α] (o : Operator) (a b : α) :
    Decidable (o.Relates a b) :=
  match o with
  | .equal => inferInstanceAs (Decidable (a = b))
  | .unequal => inferInstanceAs (Decidable (a ≠ b))
  | .less => inferInstanceAs (Decidable (a < b))
  | .atMost => inferInstanceAs (Decidable (a ≤ b))
  | .greater => inferInstanceAs (Decidable (b < a))
  | .atLeast => inferInstanceAs (Decidable (b ≤ a))
  | .like => .isFalse id

end Relates

variable {α β : Type} [LinearOrder α] [LinearOrder β] {o : Operator}

theorem holds_compare_iff (ho : o ≠ .like) (a b : α) :
    o.holds (compare a b) = true ↔ o.Relates a b := by
  cases o with
  | equal => simp [holds, Relates]
  | unequal => simp [holds, Relates]
  | less => simp [holds, Relates, compare_lt_iff_lt]
  | atMost => simp [holds, Relates, compare_gt_iff_gt]
  | greater => simp [holds, Relates, compare_gt_iff_gt]
  | atLeast => simp [holds, Relates, compare_lt_iff_lt]
  | like => exact absurd rfl ho

/-- A relation does not tell values apart that are in the same order. -/
theorem relates_congr {a b : α} {x y : β} (hless : a < b ↔ x < y) (hmore : b < a ↔ y < x) :
    o.Relates a b ↔ o.Relates x y := by
  have hle : a ≤ b ↔ x ≤ y := by rw [← not_lt, hmore, not_lt]
  have hge : b ≤ a ↔ y ≤ x := by rw [← not_lt, hless, not_lt]
  have heq : a = b ↔ x = y := by rw [le_antisymm_iff, le_antisymm_iff, hle, hge]
  cases o with
  | equal => exact heq
  | unequal => exact not_congr heq
  | less => exact hless
  | atMost => exact hle
  | greater => exact hmore
  | atLeast => exact hge
  | like => exact Iff.rfl

end Operator

/-! ## Columns of integers -/

namespace Column

/-- The number of an entry in a column of numbers; nothing for a column of
    texts. -/
def number? : Column → Option (Nat × Trade → Int)
  | .id => some fun entry => entry.1
  | .computeLimit => some fun entry => entry.2.computeLimit.toNat
  | .computePrice => some fun entry => entry.2.computePrice.toNat
  | .tipAmount => some fun entry => entry.2.tipAmount.toInt
  | .timestamp => some fun entry => entry.2.timestamp.toInt
  | _ => none

/-- The integers of the type that the values of a column have. -/
def InRange (c : Column) (v : Int) : Prop :=
  match c with
  | .computeLimit => 0 ≤ v ∧ v < 2 ^ 64
  | .computePrice => 0 ≤ v ∧ v < 2 ^ 64
  | .amount => -(2 ^ 127) ≤ v ∧ v < 2 ^ 127
  | _ => -(2 ^ 63) ≤ v ∧ v < 2 ^ 63

variable {c : Column} {value : Nat × Trade → Int} {entry : Nat × Trade} {v : Int}

theorem affinity_of_number? (hc : c.number? = some value) : c.affinity = .numeric := by
  cases c <;> first | rfl | cases hc

theorem cell_of_number? (hc : c.number? = some value) (hfits : entry.2.Fits) :
    (TradeLog.rowOf entry).cell c = .number (.whole (value entry)) := by
  have hlimits := And.intro hfits.computeLimit_lt hfits.computePrice_lt
  unfold TradeLog.rowOf Trade.row Trade.cells?
  rw [if_pos hlimits]
  cases c <;> first | (cases hc; rfl) | cases hc

theorem cell_amount (hfits : entry.2.Fits) :
    (TradeLog.rowOf entry).cell .amount = .text (Text.Decimal.ofInt entry.2.amount) := by
  have hlimits := And.intro hfits.computeLimit_lt hfits.computePrice_lt
  unfold TradeLog.rowOf Trade.row Trade.cells?
  rw [if_pos hlimits]
  rfl

/-- The table's numbers have 64 signed bits.  Limits and prices are asked for
    by larger ones as well, but never stored with them. -/
theorem InRange.bounds (hv : c.InRange v) (hc : c.number? = some value) (hfits : entry.2.Fits) :
    -(2 ^ 63) ≤ v ∧ v < 2 ^ 64 ∧ (v < 2 ^ 63 ∨ value entry < 2 ^ 63) := by
  have hlimit := hfits.computeLimit_lt
  have hprice := hfits.computePrice_lt
  unfold InRange at hv
  cases c <;> cases hc <;> dsimp only at hv ⊢ <;> omega

end Column

/-! ## Conditions on integers -/

namespace Condition

variable {c : Column} {o : Operator} {value : Nat × Trade → Int} {entry : Nat × Trade} {v : Int}

theorem passes_of_compare? {text : String} {r : Row} {order : Ordering} (ho : o ≠ .like)
    (horder : (r.cell c).compare? (c.affinity.operand text) = some order) :
    (Condition.mk c o text).passes r = o.holds order := by
  unfold passes
  cases o with
  | like => exact absurd rfl ho
  | _ => simp only [horder]

/-- A column of numbers compares integers. -/
theorem passes_of_number? (ho : o ≠ .like) (hc : c.number? = some value) (hv : c.InRange v)
    (hfits : entry.2.Fits) :
    (Condition.mk c o (Text.Decimal.ofInt v)).passes (TradeLog.rowOf entry) =
      decide (o.Relates (value entry) v) := by
  obtain ⟨hlow, hhigh, hsmall⟩ := hv.bounds hc hfits
  obtain ⟨b, hread, horder⟩ := CellNumber.compare_ofText? hlow hhigh hsmall
  have hoperand : c.affinity.operand (Text.Decimal.ofInt v) = .number b := by
    rw [Column.affinity_of_number? hc]
    simp only [Affinity.operand, hread]
  have hcompare : ((TradeLog.rowOf entry).cell c).compare?
      (c.affinity.operand (Text.Decimal.ofInt v)) = some (compare (value entry) v) := by
    rw [Column.cell_of_number? hc hfits, hoperand]
    exact congrArg some horder
  rw [passes_of_compare? ho hcompare, Bool.eq_iff_iff, Operator.holds_compare_iff ho,
    decide_eq_true_iff]

/-- The column of amounts compares texts. -/
theorem passes_amount (ho : o ≠ .like) (text : String) (hfits : entry.2.Fits) :
    (Condition.mk .amount o text).passes (TradeLog.rowOf entry) =
      decide (o.Relates (Text.Decimal.ofInt entry.2.amount) text) := by
  -- the texts are told apart by the test that the order of texts is made of
  have hcompare : ((TradeLog.rowOf entry).cell .amount).compare?
      (Column.amount.affinity.operand text) =
        some (compare (Text.Decimal.ofInt entry.2.amount) text) := by
    rw [Column.cell_amount hfits, LinearOrder.compare_eq_compareOfLessAndEq]
    rfl
  rw [passes_of_compare? ho hcompare, Bool.eq_iff_iff, Operator.holds_compare_iff ho,
    decide_eq_true_iff]

end Condition

/-! ## Searches for one comparison -/

/-- The search for what stands in a relation to a text, with room for some
    trades. -/
def TradeFilter.comparing (c : Column) (o : Operator) (text : String) (limit : UInt32) :
    TradeFilter :=
  ⟨[⟨c.name, o.symbol, text⟩], some limit, none⟩

theorem TradeQuery.condition_of_names (c : Column) (o : Operator) (text : String) :
    condition ⟨c.name, o.symbol, text⟩ = .ok ⟨c, o, text⟩ := by
  have ho : Operator.ofText? o.symbol = some o := by cases o <;> rfl
  unfold condition
  rw [Column.ofName?_name, ho]

namespace TradeHistory

open Text.Decimal (ofInt digitCount)

variable {h : TradeHistory} {l : TradeLog} {o : Operator} {limit : UInt32}

theorem IsLogOf.search_comparing (hlog : h.IsLogOf l) (c : Column) (o : Operator) (text : String)
    (hlimit : l.entries.length ≤ limit.toNat) :
    h.search (.comparing c o text limit) =
      .ok ((l.entries.filter fun entry =>
        (Condition.mk c o text).passes (TradeLog.rowOf entry)).map Prod.snd) := by
  have hselect : l.select [⟨c, o, text⟩] = l.entries.filter fun entry =>
      (Condition.mk c o text).passes (TradeLog.rowOf entry) := by
    unfold TradeLog.select
    simp only [List.all_cons, List.all_nil, Bool.and_true]
  -- what is found is never more than what there is, so it stands on one page
  have hroom : (l.select [⟨c, o, text⟩]).length ≤ limit.toNat :=
    Nat.le_trans (List.length_filter_le _ _) hlimit
  have hpage : (TradeFilter.comparing c o text limit).pageOf (l.select [⟨c, o, text⟩]) =
      l.select [⟨c, o, text⟩] := List.take_of_length_le hroom
  have hqueries : (TradeFilter.comparing c o text limit).queries.mapM TradeQuery.condition =
      .ok [⟨c, o, text⟩] := by
    unfold TradeFilter.comparing
    rw [List.mapM_cons, TradeQuery.condition_of_names]
    rfl
  rw [hlog.search]
  unfold TradeLog.search
  rw [hqueries]
  dsimp only
  rw [hpage, hselect]

/-- Comparing a column of numbers finds the trades whose number stands in the
    relation to the integer. -/
theorem IsLogOf.search_number? (hlog : h.IsLogOf l) (ho : o ≠ .like)
    (hlimit : l.entries.length ≤ limit.toNat) {c : Column} {value : Nat × Trade → Int} {v : Int}
    (hc : c.number? = some value) (hv : c.InRange v) :
    h.search (.comparing c o (ofInt v) limit) =
      .ok ((l.entries.filter fun entry => o.Relates (value entry) v).map Prod.snd) := by
  have hpasses : (l.entries.filter fun entry =>
      (Condition.mk c o (ofInt v)).passes (TradeLog.rowOf entry)) =
        l.entries.filter fun entry => o.Relates (value entry) v :=
    List.filter_congr fun entry hentry =>
      Condition.passes_of_number? ho hc hv (hlog.fits entry hentry)
  rw [hlog.search_comparing c o (ofInt v) hlimit, hpasses]

/-- Comparing amounts finds the trades with an amount whose text stands in
    the relation to the text. -/
theorem IsLogOf.search_amount (hlog : h.IsLogOf l) (ho : o ≠ .like)
    (hlimit : l.entries.length ≤ limit.toNat) (text : String) :
    h.search (.comparing .amount o text limit) =
      .ok ((l.entries.filter fun entry =>
        o.Relates (ofInt entry.2.amount) text).map Prod.snd) := by
  have hpasses : (l.entries.filter fun entry =>
      (Condition.mk .amount o text).passes (TradeLog.rowOf entry)) =
        l.entries.filter fun entry => o.Relates (ofInt entry.2.amount) text :=
    List.filter_congr fun entry hentry =>
      Condition.passes_amount ho text (hlog.fits entry hentry)
  rw [hlog.search_comparing .amount o text hlimit, hpasses]

/-- A search for one comparison with an integer, with room for all trades.
    In a column of numbers it finds the trades whose number stands in the
    relation to the integer.  Amounts are compared by their decimal texts.
    These are in the order of the integers if one of the two is negative and
    the other is not, or if neither is and they have equally many digits; with
    two negative ones of equally many digits it is the other way round. -/
theorem IsLogOf.search_compares (hlog : h.IsLogOf l) (ho : o ≠ .like)
    (hlimit : l.entries.length ≤ limit.toNat) :
    (∀ c value v, c.number? = some value → c.InRange v →
      h.search (.comparing c o (ofInt v) limit) =
        .ok ((l.entries.filter fun entry => o.Relates (value entry) v).map Prod.snd)) ∧
    (∀ v, h.search (.comparing .amount o (ofInt v) limit) =
      .ok ((l.entries.filter fun entry =>
        o.Relates (ofInt entry.2.amount) (ofInt v)).map Prod.snd)) ∧
    (∀ a v, (a < 0 ↔ 0 ≤ v) ∨ (0 ≤ a ∧ 0 ≤ v ∧ digitCount a = digitCount v) →
      (o.Relates (ofInt a) (ofInt v) ↔ o.Relates a v)) ∧
    (∀ a v, a < 0 → v < 0 → digitCount a = digitCount v →
      (o.Relates (ofInt a) (ofInt v) ↔ o.Relates v a)) := by
  refine ⟨fun c value v hc hv => hlog.search_number? ho hlimit hc hv,
    fun v => hlog.search_amount ho hlimit (ofInt v), fun a v halike => ?_,
    fun a v ha hv hcount => ?_⟩
  · -- being alike goes both ways, so texts and integers agree on less and on more
    have halike' : (v < 0 ↔ 0 ≤ a) ∨ (0 ≤ v ∧ 0 ≤ a ∧ digitCount v = digitCount a) := by omega
    exact Operator.relates_congr (Text.Decimal.ofInt_lt_ofInt_iff halike)
      (Text.Decimal.ofInt_lt_ofInt_iff halike')
  · exact Operator.relates_congr (Text.Decimal.ofInt_lt_ofInt_iff_of_neg ha hv hcount)
      (Text.Decimal.ofInt_lt_ofInt_iff_of_neg hv ha hcount.symm)

/-- A purchase of nine tokens. -/
def purchase : Trade :=
  { sale with action := .buy, amount := 9, signature := "bought", tipAmount := 5 }

/-- A tip of minus seven is at least minus eight and below five, whatever
    their digits; the limit that is asked for may be larger than any that is
    stored; and a purchase is more than a sale. -/
theorem search_compares_sales :
    (∀ request ∈ [Request.insert sale, .insert purchase], request.InRange) ∧
    (empty.after [.insert sale, .insert purchase]).search
        (.comparing .tipAmount .atLeast (ofInt (-8)) 2) = .ok [purchase, sale] ∧
    (empty.after [.insert sale, .insert purchase]).search
        (.comparing .tipAmount .less (ofInt 5) 2) = .ok [sale] ∧
    (empty.after [.insert sale, .insert purchase]).search
        (.comparing .computeLimit .less (ofInt 18446744073709551615) 2) =
      .ok [purchase, sale] ∧
    (Operator.greater.Relates (ofInt 9) (ofInt (-5)) ↔
      Operator.greater.Relates (9 : Int) (-5)) := by
  have hpast : ∀ request ∈ [Request.insert sale, .insert purchase], request.InRange := by decide
  have hlog := isLogOf_after hpast
  have hlimit : (TradeLog.empty.after [.insert sale, .insert purchase]).entries.length ≤
      (2 : UInt32).toNat := by decide
  have hless := hlog.search_compares (o := .less) (by decide) hlimit
  have hleast := hlog.search_compares (o := .atLeast) (by decide) hlimit
  have hmore := hlog.search_compares (o := .greater) (by decide) hlimit
  exact ⟨hpast, hleast.1 .tipAmount _ (-8) rfl ⟨by decide, by decide⟩,
    hless.1 .tipAmount _ 5 rfl ⟨by decide, by decide⟩,
    hless.1 .computeLimit _ _ rfl ⟨by decide, by decide⟩,
    hmore.2.2.1 9 (-5) (.inl (by decide))⟩

/-- Nine is below ten and is not found there. -/
theorem search_amount_misses :
    (empty.after [.insert purchase]).content = [(1, .ok purchase)] ∧
    purchase.amount < 10 ∧ Column.amount.InRange 10 ∧
    (empty.after [.insert purchase]).search
        ⟨[⟨"amount", "<", "10"⟩], some 100, none⟩ = .ok [] := by
  have hpast : ∀ request ∈ [Request.insert purchase], request.InRange := by decide
  have hlog := isLogOf_after hpast
  refine ⟨hlog.content_eq, by decide, ⟨by decide, by decide⟩, ?_⟩
  have hlimit : (TradeLog.empty.after [.insert purchase]).entries.length ≤
      (100 : UInt32).toNat := by decide
  have hfound := hlog.search_amount (o := .less) (by decide) hlimit "10"
  have htext : ¬ Operator.less.Relates (ofInt purchase.amount) "10" := by decide +kernel
  have hentries : (TradeLog.empty.after [.insert purchase]).entries = [(1, purchase)] := rfl
  rw [hentries, List.filter_cons_of_neg (by simpa using htext)] at hfound
  exact hfound

end TradeHistory

end PoolWatch
