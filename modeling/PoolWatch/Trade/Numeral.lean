import PoolWatch.Binary80
import PoolWatch.Text.Letter

/-! # Numerals

    How the texts of a table write numbers.  A numeral is read through a
    significand of at most 64 bits: digits that no longer fit count for their
    place alone, and the rest is scaled by a power of ten.  A binary64 is
    written with fifteen digits, and with a point. -/

namespace PoolWatch.Trade

/-- A numeral without its sign: `significand * 10 ^ power`, and whether it is
    written as an integer, digits alone. -/
structure Numeral where
  significand : Nat
  power : Int
  plain : Bool
  /-- The value of its digits, all of them. -/
  digits : Nat
  deriving DecidableEq, Repr

namespace Numeral

/-! ## Reading -/

/-- The value of a run of digits. -/
def valueOf (ds : List Char) : Nat :=
  (Text.Decimal.natOfChars? ds).getD 0

/-- A significand takes one more digit while it is less than this. -/
def digitLimit : Nat := 1844674407370955160

/-- Appends digits to a significand while it takes them, and counts them. -/
def absorb (significand taken : Nat) : List Char → Nat × Nat
  | [] => (significand, taken)
  | d :: rest =>
    if significand < digitLimit then absorb (significand * 10 + valueOf [d]) (taken + 1) rest
    else (significand, taken)

/-- Exponents past this are taken as this. -/
def maxExponent : Nat := 10000

/-- The digits of an exponent, which have to be there and end the text. -/
def exponent? (cs : List Char) : Option Int :=
  let (minus, cs) :=
    match cs with
    | '-' :: rest => (true, rest)
    | '+' :: rest => (false, rest)
    | cs => (false, cs)
  if cs.isEmpty || !cs.all Text.isDigit then none
  else
    let e : Int := min (valueOf cs) maxExponent
    some (if minus then -e else e)

/-- The numeral of a text: integer digits, an optional point with or without
    digits, an optional exponent; some digit has to be there. -/
def ofChars? (cs : List Char) : Option Numeral :=
  let whole := cs.takeWhile Text.isDigit
  let rest := cs.dropWhile Text.isDigit
  let (pointed, fraction, rest) :=
    match rest with
    | '.' :: more => (true, more.takeWhile Text.isDigit, more.dropWhile Text.isDigit)
    | _ => (false, [], rest)
  let (s, taken) := absorb 0 0 whole
  let left : Int := (whole.length - taken : Nat)
  let (s, places) := absorb s 0 fraction
  if whole.isEmpty && fraction.isEmpty then none
  else
    match rest with
    | [] => some ⟨s, left - places, !pointed, valueOf whole⟩
    | c :: more =>
      if c = 'e' || c = 'E' then
        (exponent? more).map fun e => ⟨s, e + left - places, false, valueOf whole⟩
      else none

/-- Moves a power of ten into the significand while it fits, and trailing
    zeros out of it while the power is negative. -/
def balance (fuel : Nat) (significand : Nat) (power : Int) : Nat × Int :=
  match fuel with
  | 0 => (significand, power)
  | fuel + 1 =>
    if 0 < power ∧ significand < digitLimit then balance fuel (significand * 10) (power - 1)
    else if power < 0 ∧ significand % 10 = 0 then balance fuel (significand / 10) (power + 1)
    else (significand, power)

/-- No significand has more digits. -/
def maxDigits : Nat := 20

/-- The binary64 of a numeral; nothing when it is past the largest. -/
def toBinary64? (n : Numeral) : Option Binary64 :=
  if n.significand = 0 then some ⟨0, -1074⟩
  else
    let (s, power) := balance maxDigits n.significand n.power
    if power = 0 then Binary64.round? s 1
    else ((⟨s, 0⟩ : Binary80).scaleTen power).toBinary64?

/-! ## Writing -/

/-- Digits that are written at most. -/
def precision : Nat := 15

/-- Multiplies by a factor while a test holds, and adds to a power of ten
    each time. -/
def steps (fuel : Nat) (test : Binary80 → Bool) (factor : Binary80) (step : Int) :
    Binary80 × Int → Binary80 × Int
  | (x, power) =>
    match fuel with
    | 0 => (x, power)
    | fuel + 1 =>
      if test x then steps fuel test factor step (x.mul factor, power + step) else (x, power)

/-- Brings a positive number to 18 or 19 integer digits, and the power of ten
    that was taken out. -/
def leading (x : Binary64) : Nat × Int :=
  let start := (Binary80.ofBinary64 x, (0 : Int))
  let least (k : Int) (y : Binary80) : Bool := !y.lt (.ten k)
  let under (k : Int) (y : Binary80) : Bool := y.lt (.ten k)
  let (y, power) :=
    if least 19 start.1 then
      steps 10 (least 19) (.ten (-1)) 1
        (steps 10 (least 29) (.ten (-10)) 10 (steps 4 (least 119) (.ten (-100)) 100 start))
    else
      steps 20 (under 17) (.ten 1) (-1)
        (steps 20 (under 7) (.ten 10) (-10) (steps 4 (under (-97)) (.ten 100) (-100) start))
  (y.floor, power)

/-- Digits without the zeros at their end. -/
def trimmed (ds : List Char) : List Char :=
  (ds.reverse.dropWhile (· = '0')).reverse

/-- The digits of a positive number, and how many of them stand before the
    point. -/
def significant (x : Binary64) : List Char × Int :=
  let (v, power) := leading x
  let count := (Text.Decimal.natChars v).length
  let unit := Nat.pow 10 (count - precision)
  let rounded := (2 * v + unit) / (2 * unit)
  let ds := Text.Decimal.natChars rounded
  (trimmed ds, (ds.length : Int) + (count - precision : Nat) + power)

/-- A digit has to follow the point. -/
def orZero (ds : List Char) : List Char :=
  if ds.isEmpty then ['0'] else ds

/-- An exponent: its sign, and two digits at least. -/
def exponentChars (e : Int) : List Char :=
  let ds := Text.Decimal.natChars e.natAbs
  (if e < 0 then '-' else '+') :: (if ds.length < 2 then '0' :: ds else ds)

/-- A positive number: with an exponent when it would need zeros before the
    point or more than three after it, else without. -/
def magnitudeChars (x : Binary64) : List Char :=
  let (ds, point) := significant x
  if point < -3 ∨ (precision : Int) < point then
    ds.take 1 ++ '.' :: orZero (ds.drop 1) ++ 'e' :: exponentChars (point - 1)
  else if point ≤ 0 then
    '0' :: '.' :: List.replicate point.natAbs '0' ++ ds
  else
    let before := point.toNat
    ds.take before ++ List.replicate (before - ds.length) '0' ++ '.' :: orZero (ds.drop before)

/-- A number as text; a zero has no sign. -/
def write (negative : Bool) (x : Binary64) : String :=
  if x.significand = 0 then "0.0"
  else String.ofList (if negative then '-' :: magnitudeChars x else magnitudeChars x)

end Numeral

end PoolWatch.Trade
