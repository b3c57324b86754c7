import PoolWatch.Trade.Filter

/-! # Search statements

    A search is put to the table as a text: what to select, the conditions
    and the page.  The values that conditions compare with are no part of the
    text.  A condition names its value by a number, and the values are handed
    over beside the text.

    The table reads the text, which it does for texts of this one form, and
    answers with the rows of the page. -/

namespace PoolWatch

namespace Trade

/-- A condition as a statement has it. -/
structure Clause where
  column : Column
  operator : Operator
  /-- Where its value stands among the values, from zero. -/
  position : Nat
  deriving DecidableEq, Repr

/-- Conditions that all have to hold, and a page. -/
structure Statement where
  clauses : List Clause
  limit : Nat
  offset : Nat
  deriving DecidableEq, Repr

/-- Whether a row passes a condition, given the values.  Without its value
    it is passed by no row. -/
def Clause.passes (values : List String) (c : Clause) (r : Row) : Bool :=
  match values[c.position]? with
  | some value => Condition.passes ⟨c.column, c.operator, value⟩ r
  | none => false

namespace Statement

/-! ## Writing -/

/-- A word of a statement. -/
abbrev Word := List Char

/-- The words of a text. -/
def wordsOf (text : String) : List Word :=
  text.toList.splitOn ' '

/-- What is selected: every written column, in order. -/
def selection : String :=
  "SELECT amm_id, mint, action, compute_limit, compute_price, amount, signature, " ++
    "tip, tip_amount, status, signer, timestamp FROM trades"

/-- The order of the rows, up to the size of a page. -/
def order : String :=
  "ORDER BY id DESC LIMIT"

/-- The placeholder of a value: a question mark and its number, from one. -/
def placeholder (position : Nat) : Word :=
  '?' :: Text.Decimal.natChars (position + 1)

/-- The words of conditions; the first one is led in by its own word. -/
def clauseWords (lead : Word) : List Clause → List Word
  | [] => []
  | c :: rest =>
    [lead, c.column.name.toList, c.operator.symbol.toList, placeholder c.position] ++
      clauseWords "AND".toList rest

/-- The words of a statement. -/
def words (s : Statement) : List Word :=
  wordsOf selection ++ clauseWords "WHERE".toList s.clauses ++ wordsOf order ++
    [Text.Decimal.natChars s.limit, "OFFSET".toList, Text.Decimal.natChars s.offset]

/-- The text of a statement. -/
def text (s : Statement) : String :=
  String.ofList ([' '].intercalate s.words)

/-! ## Reading -/

/-- What follows some words that have to be there. -/
def after? (front words : List Word) : Option (List Word) :=
  if words.take front.length = front then some (words.drop front.length) else none

/-- The number that a word writes. -/
def number? (w : Word) : Option Nat :=
  if w.isEmpty then none else Text.Decimal.natOfChars? w

/-- Where the value of a placeholder stands. -/
def position? : Word → Option Nat
  | '?' :: ds =>
    match number? ds with
    | some (n + 1) => some n
    | _ => none
  | _ => none

/-- The conditions at the front, and the words after them. -/
def readClauses (lead : Word) : List Word → Option (List Clause × List Word)
  | word :: column :: operator :: place :: rest =>
    if word = lead then do
      let column ← Column.ofName? (String.ofList column)
      let operator ← Operator.ofSymbol? (String.ofList operator)
      let position ← position? place
      let (clauses, rest) ← readClauses "AND".toList rest
      pure (⟨column, operator, position⟩ :: clauses, rest)
    else some ([], word :: column :: operator :: place :: rest)
  | words => some ([], words)

/-- The size of the page and where it starts. -/
def readPage : List Word → Option (Nat × Nat)
  | [limit, word, offset] =>
    if word = "OFFSET".toList then do
      let limit ← number? limit
      let offset ← number? offset
      pure (limit, offset)
    else none
  | _ => none

/-- The statement that some words write. -/
def ofWords? (words : List Word) : Option Statement := do
  let rest ← after? (wordsOf selection) words
  let (clauses, rest) ← readClauses "WHERE".toList rest
  let rest ← after? (wordsOf order) rest
  let (limit, offset) ← readPage rest
  pure ⟨clauses, limit, offset⟩

/-- The statement that a text writes. -/
def ofText? (text : String) : Option Statement :=
  ofWords? (wordsOf text)

/-! ## Answering -/

/-- The rows of the page, of rows that are newest first. -/
def page (s : Statement) (values : List String) (rows : List Row) : List Row :=
  ((rows.filter fun r => s.clauses.all fun c => c.passes values r).drop s.offset).take s.limit

end Statement

end Trade

/-! ## Compiling -/

namespace TradeFilter

/-- The conditions of queries, their values numbered on, and the values. -/
def numbered (position : Nat) :
    List TradeQuery → Except SearchError (List Trade.Clause × List String)
  | [] => .ok ([], [])
  | q :: rest => do
    let c ← q.condition
    let (clauses, values) ← numbered (position + 1) rest
    pure (⟨c.column, c.operator, position⟩ :: clauses, c.value :: values)

/-- The statement of a filter, and the values beside it. -/
def statement (f : TradeFilter) : Except SearchError (Trade.Statement × List String) := do
  let (clauses, values) ← numbered 0 f.queries
  pure (⟨clauses, (f.limit.getD standardLimit).toNat, (f.offset.getD 0).toNat⟩, values)

end TradeFilter

end PoolWatch
