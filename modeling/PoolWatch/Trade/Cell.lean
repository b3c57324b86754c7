import PoolWatch.Trade.Numeral

/-! # Table cells

    A cell holds nothing, a number or a text.  Numbers are 64-bit integers
    or binary64 values and compare exactly, whatever their form; every text
    sorts after every number.

    A numeric column turns a text that writes a number into that number,
    both when it is stored and when it is compared. -/

namespace PoolWatch

/-- A number of a cell: a 64-bit integer, a finite binary64, or an infinity. -/
inductive CellNumber where
  | whole (value : Int)
  | binary (negative : Bool) (magnitude : Binary64)
  | infinite (negative : Bool)
  deriving DecidableEq, Repr

/-- What a cell holds. -/
inductive Cell where
  | null
  | number (value : CellNumber)
  | text (value : String)
  deriving DecidableEq, Repr

namespace CellNumber

/-- The value of a finite number as a quotient. -/
def quotient? : CellNumber → Option (Int × Nat)
  | .whole n => some (n, 1)
  | .binary negative x =>
    let (num, den) := x.quotient
    some (if negative then -(num : Int) else num, den)
  | .infinite _ => none

/-- Where a number stands to another, as if by subtraction. -/
def compare (a b : CellNumber) : Ordering :=
  match a, b with
  | .infinite true, .infinite true => .eq
  | .infinite false, .infinite false => .eq
  | .infinite negative, _ => if negative then .lt else .gt
  | _, .infinite negative => if negative then .gt else .lt
  | a, b =>
    match a.quotient?, b.quotient? with
    | some (n, d), some (m, e) => Ord.compare (n * e) (m * d)
    | _, _ => .eq

/-! ## Numeric texts -/

/-- The blanks that may stand around a number. -/
def isSpace (c : Char) : Bool :=
  c = ' ' || ('\t' ≤ c && c ≤ '\r')

/-- The largest 64-bit integer. -/
def maxWhole : Int := 0x7fffffffffffffff

/-- The smallest 64-bit integer. -/
def minWhole : Int := -0x8000000000000000

/-- The number of a magnitude's numeral.  One that is written as an integer
    and fits is an integer, every other a binary64; past the largest it is
    infinite. -/
def ofMagnitude? (negative : Bool) (cs : List Char) : Option CellNumber :=
  (Trade.Numeral.ofChars? cs).map fun n =>
    let value : Int := if negative then -(n.digits : Int) else n.digits
    if n.plain && minWhole ≤ value && value ≤ maxWhole then .whole value
    else
      match n.toBinary64? with
      | some x => .binary negative x
      | none => .infinite negative

/-- Drops the blanks at both ends. -/
def strip (cs : List Char) : List Char :=
  ((cs.dropWhile isSpace).reverse.dropWhile isSpace).reverse

/-- The number that a text writes, if it writes one. -/
def ofText? (text : String) : Option CellNumber :=
  match strip text.toList with
  | '-' :: rest => ofMagnitude? true rest
  | '+' :: rest => ofMagnitude? false rest
  | cs => ofMagnitude? false cs

/-- An integer in place of a binary64 of the same value, if it lies between
    the smallest and the largest; neither of these two is taken. -/
def normal (n : CellNumber) : CellNumber :=
  match n with
  | .binary .. =>
    match n.quotient? with
    | some (num, den) =>
      if num % den = 0 ∧ minWhole < num / den ∧ num / den < maxWhole then .whole (num / den)
      else n
    | none => n
  | n => n

/-- A number as text. -/
def text : CellNumber → String
  | .whole n => Text.Decimal.ofInt n
  | .binary negative x => Trade.Numeral.write negative x
  | .infinite negative => if negative then "-Inf" else "Inf"

end CellNumber

/-! ## Columns -/

/-- What a column makes of the values it is given. -/
inductive Affinity where
  | numeric
  | textual
  deriving DecidableEq, Repr

/-- A value as a column stores it. -/
def Affinity.store : Affinity → Cell → Cell
  | .numeric, .text s =>
    match CellNumber.ofText? s with
    | some n => .number n.normal
    | none => .text s
  | .numeric, .number n => .number n.normal
  | .textual, .number n => .text n.text
  | _, cell => cell

/-- A text as a column compares it. -/
def Affinity.operand : Affinity → String → Cell
  | .numeric, s =>
    match CellNumber.ofText? s with
    | some n => .number n
    | none => .text s
  | .textual, s => .text s

namespace Cell

/-- Where a cell stands to another; nothing when one holds nothing. -/
def compare? : Cell → Cell → Option Ordering
  | .number a, .number b => some (a.compare b)
  | .number _, .text _ => some .lt
  | .text _, .number _ => some .gt
  | .text a, .text b => some (if a < b then .lt else if a = b then .eq else .gt)
  | _, _ => none

/-- The text of a cell. -/
def text? : Cell → Option String
  | .text s => some s
  | .number n => some n.text
  | .null => none

end Cell

end PoolWatch
