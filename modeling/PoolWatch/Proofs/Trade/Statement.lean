import PoolWatch.Proofs.Text.Decimal
import PoolWatch.Proofs.Text.Pieces
import PoolWatch.Trade.History

/-! # Search statements read back

    No word of a statement holds a blank, so the text of a statement falls
    into its words again, and the table reads the statement that was written
    (`ofText?_text`).  Its conditions find their own values under their
    numbers (`all_passes_numberedFrom`).

    A search is therefore what its queries say, one by one (`search_eq`). -/

namespace PoolWatch

theorem Column.ofName?_name (c : Column) : ofName? c.name = some c := by
  cases c <;> rfl

theorem Operator.ofSymbol?_symbol (o : Operator) : ofSymbol? o.symbol = some o := by
  cases o <;> rfl

namespace Trade.Statement

/-! ## Words -/

/-- A word is cut off by blanks, so it holds none. -/
def IsWord (w : Word) : Prop :=
  ' ' ∉ w

instance (w : Word) : Decidable (IsWord w) :=
  inferInstanceAs (Decidable (' ' ∉ w))

theorem isWord_of_mem_wordsOf {text : String} : ∀ w ∈ wordsOf text, IsWord w :=
  fun _ hw => Text.not_mem_of_mem_splitOn hw

theorem isWord_natChars (n : Nat) : IsWord (Text.Decimal.natChars n) := by
  have hdigits : ∀ c ∈ Text.Decimal.natChars n, c ≠ ' ' :=
    Text.Decimal.forall_mem_natChars n (by decide)
  exact fun hblank => hdigits ' ' hblank rfl

theorem isWord_name (c : Column) : IsWord c.name.toList := by
  cases c <;> decide

theorem isWord_symbol (o : Operator) : IsWord o.symbol.toList := by
  cases o <;> decide

theorem isWord_placeholder (position : Nat) : IsWord (placeholder position) :=
  List.not_mem_cons_of_ne_of_not_mem (by decide) (isWord_natChars _)

theorem isWord_clauseWords {lead : Word} (hlead : IsWord lead) (cs : List Clause) :
    ∀ w ∈ clauseWords lead cs, IsWord w := by
  induction cs generalizing lead with
  | nil => exact fun _ hw => absurd hw List.not_mem_nil
  | cons c cs ih =>
    have hrest : ∀ w ∈ clauseWords "AND".toList cs, IsWord w := ih (by decide)
    intro w hw
    rcases List.mem_append.1 hw with hfirst | hlater
    · simp only [List.mem_cons, List.not_mem_nil, or_false] at hfirst
      rcases hfirst with rfl | rfl | rfl | rfl
      · exact hlead
      · exact isWord_name c.column
      · exact isWord_symbol c.operator
      · exact isWord_placeholder c.position
    · exact hrest w hlater

theorem isWord_words (s : Statement) : ∀ w ∈ s.words, IsWord w := by
  intro w hw
  simp only [words, List.mem_append, List.mem_cons, List.not_mem_nil, or_false] at hw
  rcases hw with ((hselection | hclause) | horder) | rfl | rfl | rfl
  · exact isWord_of_mem_wordsOf w hselection
  · exact isWord_clauseWords (by decide) s.clauses w hclause
  · exact isWord_of_mem_wordsOf w horder
  · exact isWord_natChars s.limit
  · decide
  · exact isWord_natChars s.offset

/-- The text of a statement falls into its words. -/
theorem wordsOf_text (s : Statement) : wordsOf s.text = s.words := by
  have hne : s.words ≠ [] := by
    intro hnil
    have hlast : Text.Decimal.natChars s.limit ∈ s.words := by simp [words]
    rw [hnil] at hlast
    exact List.not_mem_nil hlast
  unfold wordsOf text
  rw [String.toList_ofList]
  exact List.splitOn_intercalate ' ' s.isWord_words hne

/-! ## Reading -/

theorem after?_append (front rest : List Word) : after? front (front ++ rest) = some rest := by
  unfold after?
  rw [if_pos (List.take_left ..), List.drop_left]

theorem number?_natChars (n : Nat) : number? (Text.Decimal.natChars n) = some n := by
  have hne : ¬ (Text.Decimal.natChars n).isEmpty = true := by
    simpa using Text.Decimal.natChars_ne_nil n
  unfold number?
  rw [if_neg hne, Text.Decimal.natOfChars?_natChars]

theorem position?_placeholder (n : Nat) : position? (placeholder n) = some n := by
  simp only [placeholder, position?, number?_natChars]

/-- Words that go on with something else than a condition. -/
def EndsClauses (lead : Word) : List Word → Prop
  | [] => True
  | w :: _ => w ≠ lead

theorem readClauses_of_ends {lead : Word} {ws : List Word} (h : EndsClauses lead ws) :
    readClauses lead ws = some ([], ws) := by
  unfold readClauses
  split
  · next word column operator place rest =>
    have hne : word ≠ lead := h
    rw [if_neg hne]
  · rfl

/-- Conditions are read as they were written; what follows them must not be
    taken for one more. -/
theorem readClauses_clauseWords {rest : List Word} (hand : EndsClauses "AND".toList rest)
    (cs : List Clause) {lead : Word} (hlead : EndsClauses lead rest) :
    readClauses lead (clauseWords lead cs ++ rest) = some (cs, rest) := by
  induction cs generalizing lead with
  | nil => exact readClauses_of_ends hlead
  | cons c cs ih =>
    have hname : Column.ofName? (String.ofList c.column.name.toList) = some c.column := by
      rw [String.ofList_toList, Column.ofName?_name]
    have hsymbol : Operator.ofSymbol? (String.ofList c.operator.symbol.toList) =
        some c.operator := by
      rw [String.ofList_toList, Operator.ofSymbol?_symbol]
    show readClauses lead (lead :: c.column.name.toList :: c.operator.symbol.toList ::
      placeholder c.position :: (clauseWords "AND".toList cs ++ rest)) = some (c :: cs, rest)
    rw [readClauses, if_pos rfl, hname, hsymbol, position?_placeholder, ih hand]
    rfl

theorem readPage_words (limit offset : Nat) :
    readPage [Text.Decimal.natChars limit, "OFFSET".toList, Text.Decimal.natChars offset] =
      some (limit, offset) := by
  simp only [readPage, if_true, number?_natChars]
  rfl

/-- The table reads the statement that was written. -/
theorem ofText?_text (s : Statement) : ofText? s.text = some s := by
  -- the order starts with a word that leads in no condition
  have hws : wordsOf order = "ORDER".toList :: (wordsOf order).tail := by decide +kernel
  have hends {lead : Word} (h : "ORDER".toList ≠ lead) (rest : List Word) :
      EndsClauses lead (wordsOf order ++ rest) := by
    rw [hws]
    exact h
  have hwhere : EndsClauses "WHERE".toList (wordsOf order ++ [Text.Decimal.natChars s.limit,
      "OFFSET".toList, Text.Decimal.natChars s.offset]) := hends (by decide) _
  have hclauses := readClauses_clauseWords (hends (by decide) _) s.clauses hwhere
  unfold ofText? ofWords?
  rw [wordsOf_text, words, List.append_assoc, List.append_assoc, after?_append]
  simp only [Option.bind_eq_bind, Option.bind_some, hclauses, after?_append, readPage_words]
  rfl

end Trade.Statement

/-! ## Values -/

/-- Conditions as a statement has them, numbered from some number on. -/
def Condition.numberedFrom (position : Nat) : List Condition → List Trade.Clause
  | [] => []
  | c :: cs => ⟨c.column, c.operator, position⟩ :: numberedFrom (position + 1) cs

/-- Each condition finds its own value. -/
theorem Condition.all_passes_numberedFrom (before : List String) (cs : List Condition) (r : Row) :
    ((numberedFrom before.length cs).all fun c =>
      c.passes (before ++ cs.map Condition.value) r) = cs.all fun c => c.passes r := by
  induction cs generalizing before with
  | nil => rfl
  | cons c cs ih =>
    have hvalue : (before ++ (c :: cs).map Condition.value)[before.length]? = some c.value := by
      simp
    have hfirst : Trade.Clause.passes (before ++ (c :: cs).map Condition.value)
        ⟨c.column, c.operator, before.length⟩ r = c.passes r := by
      unfold Trade.Clause.passes
      rw [hvalue]
    -- the values before the rest of the conditions are one more
    have hrest := ih (before ++ [c.value])
    rw [List.length_append, List.append_assoc] at hrest
    rw [numberedFrom, List.all_cons, List.all_cons, hfirst]
    exact congrArg (c.passes r && ·) hrest

theorem Condition.position_numberedFrom (position : Nat) (cs : List Condition) :
    (numberedFrom position cs).map Trade.Clause.position = List.range' position cs.length := by
  induction cs generalizing position with
  | nil => rfl
  | cons c cs ih => rw [numberedFrom, List.map_cons, ih, List.length_cons, List.range'_succ]

namespace TradeFilter

theorem numbered_eq (position : Nat) (qs : List TradeQuery) :
    numbered position qs = (qs.mapM TradeQuery.condition).map fun cs =>
      (Condition.numberedFrom position cs, cs.map Condition.value) := by
  induction qs generalizing position with
  | nil => rfl
  | cons q qs ih =>
    rw [numbered, List.mapM_cons, ih]
    cases hq : q.condition with
    | error e => rfl
    | ok c => cases qs.mapM TradeQuery.condition <;> rfl

/-- What stands on the page of a filter, of all that passes its conditions. -/
def pageOf {α : Type} (f : TradeFilter) (found : List α) : List α :=
  (found.drop (f.offset.getD 0).toNat).take (f.limit.getD standardLimit).toNat

/-- The statement of some conditions, all numbered from zero. -/
def statementOf (f : TradeFilter) (cs : List Condition) : Trade.Statement :=
  ⟨Condition.numberedFrom 0 cs, (f.limit.getD standardLimit).toNat, (f.offset.getD 0).toNat⟩

theorem statement_eq (f : TradeFilter) :
    f.statement = (f.queries.mapM TradeQuery.condition).map fun cs =>
      (f.statementOf cs, cs.map Condition.value) := by
  unfold statement
  rw [numbered_eq]
  cases f.queries.mapM TradeQuery.condition <;> rfl

/-- A statement selects the rows that pass its conditions. -/
theorem page_statementOf (f : TradeFilter) (cs : List Condition) (rows : List Row) :
    (f.statementOf cs).page (cs.map Condition.value) rows =
      f.pageOf (rows.filter fun r => cs.all fun c => c.passes r) := by
  have hpasses : (fun r => (Condition.numberedFrom 0 cs).all fun c =>
      c.passes (cs.map Condition.value) r) = fun r => cs.all fun c => c.passes r := by
    funext r
    exact Condition.all_passes_numberedFrom [] cs r
  unfold Trade.Statement.page statementOf pageOf
  rw [hpasses]

end TradeFilter

namespace TradeHistory

/-- The rows that pass all conditions, newest first. -/
def select (h : TradeHistory) (cs : List Condition) : List Row :=
  h.rows.filter fun r => cs.all fun c => c.passes r

/-- A search answers with a page of the rows that pass its queries. -/
theorem search_eq (h : TradeHistory) (f : TradeFilter) :
    h.search f =
      match f.queries.mapM TradeQuery.condition with
      | .error e => .error e
      | .ok cs => ((f.pageOf (h.select cs)).mapM Row.trade).mapError SearchError.badRow := by
  unfold search
  rw [TradeFilter.statement_eq]
  cases f.queries.mapM TradeQuery.condition with
  | error e => rfl
  | ok cs =>
    have hpage := f.page_statementOf cs h.rows
    simp only [Except.map, bind, Except.bind, Trade.Statement.ofText?_text, hpage]
    unfold select
    split
    · next trades hread => rw [hread]; rfl
    · next fault hread => rw [hread]; rfl

end TradeHistory

end PoolWatch
