import PoolWatch.Trade.Pattern
import PoolWatch.Trade.Row

/-! # Filters

    A search names columns, operators and texts: conditions that a row has to
    pass, all of them, and a page. -/

namespace PoolWatch

/-! ## Conditions -/

/-- How a column is held against a text. -/
inductive Operator where
  | equal
  | unequal
  | less
  | atMost
  | greater
  | atLeast
  | like
  deriving DecidableEq, Repr

namespace Operator

/-- The capital of a letter that a pattern operator is spelt with; the
    dotless small i is a small I as well. -/
def capital (c : Char) : Char :=
  if 'a' ≤ c ∧ c ≤ 'z' then Char.ofNat (c.toNat - 32) else if c = 'ı' then 'I' else c

/-- The operators. -/
def all : List Operator :=
  [.equal, .unequal, .less, .atMost, .greater, .atLeast, .like]

/-- How an operator is written. -/
def symbol : Operator → String
  | .equal => "="
  | .unequal => "!="
  | .less => "<"
  | .atMost => "<="
  | .greater => ">"
  | .atLeast => ">="
  | .like => "LIKE"

/-- The operator of a symbol. -/
def ofSymbol? (text : String) : Option Operator :=
  all.find? fun o => o.symbol = text

/-- A text in capitals, as far as operators are concerned. -/
def capitals (text : String) : String :=
  String.ofList (text.toList.map capital)

/-- The operator of a text, in any letter case. -/
def ofText? (text : String) : Option Operator :=
  ofSymbol? (capitals text)

/-- Whether a comparison came out as the operator asks. -/
def holds : Operator → Ordering → Bool
  | .equal, o => o == .eq
  | .unequal, o => o != .eq
  | .less, o => o == .lt
  | .atMost, o => o != .gt
  | .greater, o => o == .gt
  | .atLeast, o => o != .lt
  | .like, _ => false

end Operator

/-- One condition on rows. -/
structure Condition where
  column : Column
  operator : Operator
  value : String
  deriving DecidableEq

/-- Whether a row passes a condition.  An empty cell passes none. -/
def Condition.passes (q : Condition) (r : Row) : Bool :=
  match q.operator with
  | .like =>
    match (r.cell q.column).text? with
    | some text => Trade.Pattern.matches? q.value text
    | none => false
  | op =>
    match (r.cell q.column).compare? (q.column.affinity.operand q.value) with
    | some o => op.holds o
    | none => false

/-! ## Filters -/

/-- A condition as it is asked for, before its names are understood. -/
structure TradeQuery where
  column : String
  operator : String
  value : String
  deriving DecidableEq, Repr

/-- What to search for: conditions that all have to hold, and a page. -/
structure TradeFilter where
  queries : List TradeQuery
  limit : Option UInt32
  offset : Option UInt32
  deriving DecidableEq, Repr

/-- The rows on a page that names no limit. -/
def TradeFilter.standardLimit : UInt32 := 100

/-- Why a search was refused. -/
inductive SearchError where
  | badColumn (name : String)
  | badOperator (text : String)
  /-- The table does not read the statement. -/
  | notPrepared
  | badRow (fault : RowFault)

/-- What is wrong, as a sentence. -/
def SearchError.message : SearchError → String
  | .badColumn name => "invalid trade filter: column " ++ name
  | .badOperator text => "invalid trade filter: operator " ++ text
  | .notPrepared => "prepare trade search"
  | .badRow fault => fault.message

/-- Understands a condition: first its column, then its operator. -/
def TradeQuery.condition (q : TradeQuery) : Except SearchError Condition :=
  match Column.ofName? q.column with
  | none => .error (.badColumn q.column)
  | some column =>
    match Operator.ofText? q.operator with
    | none => .error (.badOperator q.operator)
    | some operator => .ok ⟨column, operator, q.value⟩

end PoolWatch
