import PoolWatch.Text.Decimal
import PoolWatch.Binary64

/-! # JSON documents

    A document keeps what its text says: a number keeps its numeral, an
    object keeps its members in order, repeated names included, and a string
    whose escapes spell no Unicode text is kept as a marker.  What a number
    or a repeated name means is decided by whoever reads the document. -/

namespace PoolWatch

/-- A numeral: sign, integer digits, and what follows the point and the `e`. -/
structure Numeral where
  negative : Bool
  whole : Nat
  fraction : Option (List Char)
  exponent : Option (Bool × List Char)
  deriving DecidableEq, Repr

namespace Numeral

/-- The numeral of a natural number. -/
def ofNat (n : Nat) : Numeral :=
  ⟨false, n, none, none⟩

/-- The numeral of an integer. -/
def ofInt (n : Int) : Numeral :=
  ⟨n < 0, n.natAbs, none, none⟩

/-- Neither a point nor an exponent. -/
def isInteger (n : Numeral) : Bool :=
  n.fraction.isNone && n.exponent.isNone

/-- The integer value, when the numeral writes one.  A minus sign before
    zero does not write an integer: it writes the negative zero. -/
def toInt? (n : Numeral) : Option Int :=
  if !n.isInteger then none
  else if n.negative then
    if n.whole = 0 then none else some (-(n.whole : Int))
  else some (n.whole : Int)

/-- The natural value, when the numeral writes one. -/
def toNat? (n : Numeral) : Option Nat :=
  if n.isInteger && !n.negative then some n.whole else none

/-- Appends digits to a significand while it fits a word, and counts them. -/
def absorb (significand taken : Nat) : List Char → Nat × Nat
  | [] => (significand, taken)
  | d :: rest =>
    let more := 10 * significand + (Text.Decimal.natOfChars? [d]).getD 0
    if more ≤ 0xffffffffffffffff then absorb more (taken + 1) rest else (significand, taken)

/-- The power of ten after the `e`. -/
def power (n : Numeral) : Int :=
  match n.exponent with
  | none => 0
  | some (minus, ds) =>
    let e : Int := (Text.Decimal.natOfChars? ds).getD 0
    if minus then -e else e

/-- A significand and the power of ten that it is scaled by.  Digits that no
    longer fit the significand count for their place alone. -/
def scaled (n : Numeral) : Nat × Int :=
  let whole := Text.Decimal.natChars n.whole
  let (s, taken) := absorb 0 0 whole
  let left : Int := (whole.length - taken : Nat)
  let (s, places) := absorb s 0 (n.fraction.getD [])
  (s, left - places + n.power)

/-- The binary64 magnitude that a numeral is read as; nothing when it is out of
    range.  The significand and the power of ten are rounded apart from each
    other, so it need not be the nearest one. -/
def toBinary64? (n : Numeral) : Option Binary64 :=
  let (s, power) := n.scaled
  (Binary64.round? s 1).bind (·.scaleTen? power)

example : (⟨false, 1, none, some (true, ['3', '0'])⟩ : Numeral).toBinary64?.map
    Binary64.shortest = some (9999999999999999, -46) := by decide +kernel

end Numeral

/-- A JSON document as written. -/
inductive Json where
  | null
  | bool (value : Bool)
  | number (value : Numeral)
  | string (text : Option String)
  | array (items : List Json)
  | object (members : List (Option String × Json))
  deriving Repr

namespace Json

/-- A string value. -/
def text (s : String) : Json :=
  .string (some s)

/-- A natural number. -/
def nat (n : Nat) : Json :=
  .number (.ofNat n)

/-- An integer. -/
def int (n : Int) : Json :=
  .number (.ofInt n)

/-- An object with the given members. -/
def record (members : List (String × Json)) : Json :=
  .object (members.map fun (name, value) => (some name, value))

/-- The text of a string value. -/
def text? : Json → Option String
  | .string s => s
  | _ => none

/-- The value of a boolean. -/
def bool? : Json → Option Bool
  | .bool b => some b
  | _ => none

/-- The items of an array. -/
def items? : Json → Option (List Json)
  | .array items => some items
  | _ => none

/-- A natural number not above a bound. -/
def nat? (bound : Nat) : Json → Option Nat
  | .number n => do
    let v ← n.toNat?
    if v ≤ bound then pure v else none
  | _ => none

/-- An integer of the 64-bit signed range. -/
def int64? : Json → Option Int64
  | .number n => do
    let v ← n.toInt?
    if -0x8000000000000000 ≤ v ∧ v < 0x8000000000000000 then pure (Int64.ofInt v) else none
  | _ => none

/-- A byte. -/
def byte? (j : Json) : Option UInt8 :=
  (j.nat? (0xff)).map UInt8.ofNat

/-- A 64-bit word. -/
def word64? (j : Json) : Option UInt64 :=
  (j.nat? (0xffffffffffffffff)).map UInt64.ofNat

/-- An array each of whose items reads. -/
def list? {α : Type} (item? : Json → Option α) (j : Json) : Option (List α) :=
  j.items?.bind (List.mapM item?)

/-- The value under a name; of repeated names the last one counts. -/
def get? (j : Json) (name : String) : Option Json :=
  match j with
  | .object members => (members.reverse.find? fun m => m.1 == some name).map (·.2)
  | _ => none

/-! ## Records

    A record reads from an object by the names of its fields, or from an
    array by their order.  Unknown names are passed over; a repeated field, a
    name that is no text and an array with too many items refuse it. -/

/-- The value of each field of a record, absent fields as nothing. -/
def fields? (names : List String) : Json → Option (List (Option Json))
  | .object members =>
    if members.any fun m => m.1.isNone then none
    else
      names.mapM fun name =>
        match members.filter fun m => m.1 == some name with
        | [] => some none
        | [m] => some (some m.2)
        | _ => none
  | .array items =>
    if names.length < items.length then none
    else
      some (items.map some ++ List.replicate (names.length - items.length) none)
  | _ => none

end Json

end PoolWatch
