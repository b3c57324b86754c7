import PoolWatch.Proofs.Trade.Statement

/-! # Which filters are refused

    A query is known by its names alone: a column that may be searched, and
    an operator in any letter case.  A filter is refused over the first query
    that is not known, whatever its values and whatever is searched.

    The statement of a filter is made of the names as well.  Other values
    make the same statement (`statement_congr`). -/

namespace PoolWatch

theorem Column.name_of_ofName? {name : String} {c : Column} (h : ofName? name = some c) :
    c.name = name := by
  unfold ofName? at h
  have hname := List.find?_some h
  exact of_decide_eq_true hname

theorem Operator.symbol_of_ofSymbol? {text : String} {o : Operator}
    (h : ofSymbol? text = some o) : o.symbol = text := by
  unfold ofSymbol? at h
  have hsymbol := List.find?_some h
  exact of_decide_eq_true hsymbol

/-- The column and the operator of a condition, as they are spelled. -/
def Condition.spelling (c : Condition) : String × String :=
  (c.column.name, c.operator.symbol)

/-- The same of a condition in a statement. -/
def Trade.Clause.spelling (c : Trade.Clause) : String × String :=
  (c.column.name, c.operator.symbol)

theorem Condition.spelling_numberedFrom (position : Nat) (cs : List Condition) :
    (numberedFrom position cs).map Trade.Clause.spelling = cs.map spelling := by
  induction cs generalizing position with
  | nil => rfl
  | cons c cs ih => rw [numberedFrom, List.map_cons, List.map_cons, ih]; rfl

/-! ## Queries -/

namespace TradeQuery

/-- The column is one that may be searched. -/
def NamesColumn (q : TradeQuery) : Prop :=
  q.column ∈ Column.searchable.map Column.name

/-- The operator, in capitals, is one of the operators. -/
def NamesOperator (q : TradeQuery) : Prop :=
  Operator.capitals q.operator ∈ Operator.all.map Operator.symbol

/-- Both names are known. -/
def IsKnown (q : TradeQuery) : Prop :=
  q.NamesColumn ∧ q.NamesOperator

instance (q : TradeQuery) : Decidable q.NamesColumn :=
  inferInstanceAs (Decidable (_ ∈ _))

instance (q : TradeQuery) : Decidable q.NamesOperator :=
  inferInstanceAs (Decidable (_ ∈ _))

instance (q : TradeQuery) : Decidable q.IsKnown :=
  inferInstanceAs (Decidable (_ ∧ _))

/-- What a query that is not known is refused with; the column goes first. -/
def refusal (q : TradeQuery) : SearchError :=
  if q.NamesColumn then .badOperator q.operator else .badColumn q.column

/-- The names as a statement spells them. -/
def spelling (q : TradeQuery) : String × String :=
  (q.column, Operator.capitals q.operator)

/-- Whether a row passes a query, taken by itself. -/
def admits (q : TradeQuery) (r : Row) : Bool :=
  match q.condition with
  | .ok c => c.passes r
  | .error _ => false

variable {q q' : TradeQuery}

theorem ofName?_eq_none_iff : Column.ofName? q.column = none ↔ ¬ q.NamesColumn := by
  simp [Column.ofName?, NamesColumn]

theorem ofText?_eq_none_iff : Operator.ofText? q.operator = none ↔ ¬ q.NamesOperator := by
  simp [Operator.ofText?, Operator.ofSymbol?, NamesOperator]

theorem NamesColumn.exists (h : q.NamesColumn) :
    ∃ column, Column.ofName? q.column = some column ∧ column.name = q.column := by
  obtain ⟨column, hfound⟩ :=
    Option.ne_none_iff_exists'.1 fun hnone => ofName?_eq_none_iff.1 hnone h
  exact ⟨column, hfound, Column.name_of_ofName? hfound⟩

theorem NamesOperator.exists (h : q.NamesOperator) :
    ∃ operator, Operator.ofText? q.operator = some operator ∧
      operator.symbol = Operator.capitals q.operator := by
  obtain ⟨operator, hfound⟩ :=
    Option.ne_none_iff_exists'.1 fun hnone => ofText?_eq_none_iff.1 hnone h
  exact ⟨operator, hfound, Operator.symbol_of_ofSymbol? hfound⟩

theorem condition_of_not_known (h : ¬ q.IsKnown) : q.condition = .error q.refusal := by
  unfold condition refusal
  by_cases hcolumn : q.NamesColumn
  · have hoperator : ¬ q.NamesOperator := fun hoperator => h ⟨hcolumn, hoperator⟩
    obtain ⟨column, hfound, -⟩ := hcolumn.exists
    rw [hfound, ofText?_eq_none_iff.2 hoperator, if_pos hcolumn]
  · rw [ofName?_eq_none_iff.2 hcolumn, if_neg hcolumn]

theorem condition_of_known (h : q.IsKnown) :
    ∃ c, q.condition = .ok c ∧ c.value = q.value ∧ c.spelling = q.spelling := by
  obtain ⟨column, hcolumn, hname⟩ := h.1.exists
  obtain ⟨operator, hoperator, hsymbol⟩ := h.2.exists
  refine ⟨⟨column, operator, q.value⟩, ?_, rfl, Prod.ext hname hsymbol⟩
  unfold condition
  rw [hcolumn, hoperator]

/-- The names of a query. -/
def names (q : TradeQuery) : String × String :=
  (q.column, q.operator)

/-- Queries of the same names differ in their conditions by the value only. -/
theorem condition_congr (h : q.names = q'.names) :
    q'.condition = q.condition.map fun c => { c with value := q'.value } := by
  obtain ⟨hcolumn, hoperator⟩ := Prod.mk.inj h
  unfold condition
  rw [← hcolumn, ← hoperator]
  cases Column.ofName? q.column with
  | none => rfl
  | some column => cases Operator.ofText? q.operator <;> rfl

/-! ## Several queries -/

/-- The first of some queries that is not known. -/
def firstUnknown? (qs : List TradeQuery) : Option TradeQuery :=
  qs.find? fun q => !decide q.IsKnown

theorem firstUnknown?_eq_none_iff {qs : List TradeQuery} :
    firstUnknown? qs = none ↔ ∀ q ∈ qs, q.IsKnown := by
  simp [firstUnknown?]

theorem mapM_condition_of_unknown {qs : List TradeQuery} (h : firstUnknown? qs = some q) :
    qs.mapM condition = .error q.refusal := by
  induction qs with
  | nil => cases h
  | cons q' qs ih =>
    rw [List.mapM_cons]
    by_cases hknown : q'.IsKnown
    · obtain ⟨c, hc, -⟩ := condition_of_known hknown
      have hrest : firstUnknown? qs = some q := by
        rw [firstUnknown?, List.find?_cons, decide_eq_true hknown] at h
        exact h
      rw [hc, ih hrest]
      rfl
    · have hfirst : q' = q := by
        rw [firstUnknown?, List.find?_cons, decide_eq_false hknown] at h
        exact Option.some.inj h
      rw [hfirst, condition_of_not_known (hfirst ▸ hknown)]
      rfl

/-- Known queries are conditions: the values and the spellings in order, and
    passed by what passes every query by itself. -/
theorem mapM_condition_of_known {qs : List TradeQuery} (h : ∀ q ∈ qs, q.IsKnown) :
    ∃ cs, qs.mapM condition = .ok cs ∧ cs.map Condition.value = qs.map value ∧
      cs.map Condition.spelling = qs.map spelling ∧
      ∀ r, (cs.all fun c => c.passes r) = qs.all fun q => q.admits r := by
  induction qs with
  | nil => exact ⟨[], rfl, rfl, rfl, fun _ => rfl⟩
  | cons q qs ih =>
    obtain ⟨c, hc, hvalue, hspelling⟩ := condition_of_known (h q (List.mem_cons_self ..))
    obtain ⟨cs, hcs, hvalues, hspellings, hpasses⟩ :=
      ih fun q' hq' => h q' (List.mem_cons_of_mem _ hq')
    refine ⟨c :: cs, ?_, ?_, ?_, fun r => ?_⟩
    · rw [List.mapM_cons, hc, hcs]
      rfl
    · rw [List.map_cons, List.map_cons, hvalue, hvalues]
    · rw [List.map_cons, List.map_cons, hspelling, hspellings]
    · have hadmits : q.admits r = c.passes r := by
        unfold admits
        rw [hc]
      rw [List.all_cons, List.all_cons, hadmits, hpasses r]

theorem map_numberedFrom_cons (q : TradeQuery) (qs : List TradeQuery) (position : Nat) :
    ((q :: qs).mapM condition).map (Condition.numberedFrom position) =
      q.condition.bind fun c =>
        ((qs.mapM condition).map (Condition.numberedFrom (position + 1))).map fun clauses =>
          ⟨c.column, c.operator, position⟩ :: clauses := by
  rw [List.mapM_cons]
  cases q.condition with
  | error e => rfl
  | ok c => cases qs.mapM condition <;> rfl

/-- Queries of the same names are refused alike, and numbered alike. -/
theorem mapM_condition_congr {qs qs' : List TradeQuery} (h : qs.map names = qs'.map names)
    (position : Nat) :
    (qs.mapM condition).map (Condition.numberedFrom position) =
      (qs'.mapM condition).map (Condition.numberedFrom position) := by
  induction qs generalizing qs' position with
  | nil =>
    obtain rfl := List.map_eq_nil_iff.1 h.symm
    rfl
  | cons q qs ih =>
    obtain ⟨q', qs', rfl, hq, hqs⟩ := List.map_eq_cons_iff.1 h.symm
    rw [map_numberedFrom_cons, map_numberedFrom_cons, ih hqs.symm, condition_congr hq.symm]
    cases q.condition <;> rfl

end TradeQuery

/-! ## Filters -/

namespace TradeFilter

open TradeQuery (firstUnknown?)

variable {f g : TradeFilter}

theorem statement_of_unknown {q : TradeQuery} (h : firstUnknown? f.queries = some q) :
    f.statement = .error q.refusal := by
  rw [statement_eq, TradeQuery.mapM_condition_of_unknown h]
  rfl

/-- The values are no part of the statement itself. -/
theorem map_fst_statement (f : TradeFilter) :
    f.statement.map Prod.fst =
      ((f.queries.mapM TradeQuery.condition).map (Condition.numberedFrom 0)).map fun clauses =>
        ⟨clauses, (f.limit.getD standardLimit).toNat, (f.offset.getD 0).toNat⟩ := by
  rw [statement_eq]
  cases f.queries.mapM TradeQuery.condition <;> rfl

/-- The same names and the same page are the same statement, or the same
    refusal. -/
theorem statement_congr (hnames : f.queries.map TradeQuery.names = g.queries.map TradeQuery.names)
    (hlimit : f.limit = g.limit) (hoffset : f.offset = g.offset) :
    f.statement.map Prod.fst = g.statement.map Prod.fst := by
  rw [map_fst_statement, map_fst_statement, TradeQuery.mapM_condition_congr hnames, hlimit, hoffset]

end TradeFilter

namespace TradeHistory

/-- A filter with a query that is not known is refused by every history. -/
theorem search_of_unknown (h : TradeHistory) {f : TradeFilter} {q : TradeQuery}
    (hfirst : TradeQuery.firstUnknown? f.queries = some q) : h.search f = .error q.refusal := by
  rw [search_eq, TradeQuery.mapM_condition_of_unknown hfirst]

end TradeHistory

end PoolWatch
