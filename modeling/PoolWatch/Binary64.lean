import PoolWatch.Text.Decimal

/-! # Binary64

    The finite numbers of the 64-bit binary format as exact values, the
    rounding of a quotient to the nearest of them, and the shortest decimal
    digits that read back.  All arithmetic is on natural numbers. -/

namespace PoolWatch

/-- A finite magnitude `significand * 2 ^ exponent`. -/
structure Binary64 where
  significand : Nat
  exponent : Int
  deriving DecidableEq, Repr

namespace Binary64

/-- Nearest integer to a quotient, a half going to the even neighbour. -/
def roundDiv (num den : Nat) : Nat :=
  let quotient := num / den
  let rest := num % den
  if 2 * rest < den then quotient
  else if den < 2 * rest then quotient + 1
  else if quotient % 2 = 0 then quotient
  else quotient + 1

/-- A quotient times a power of two, as a quotient. -/
def scale (num den : Nat) (power : Int) : Nat × Nat :=
  if 0 ≤ power then (num * Nat.pow 2 power.toNat, den) else (num, den * Nat.pow 2 (-power).toNat)

/-- The nearest number of the format, ties to even; nothing past the largest. -/
def round? (num den : Nat) : Option Binary64 :=
  if num = 0 then some ⟨0, -1074⟩
  else
    let guess : Int := (num.log2 : Int) - (den.log2 : Int)
    let (n, d) := scale num den (-guess)
    let top := if n < d then guess - 1 else guess
    let q := max (top - 52) (-1074)
    let (n, d) := scale num den (-q)
    let m := roundDiv n d
    let (m, q) := if m = 0x20000000000000 then (0x10000000000000, q + 1) else (m, q)
    if 971 < q then none else some ⟨m, q⟩

/-- The value as a quotient. -/
def quotient (x : Binary64) : Nat × Nat :=
  scale x.significand 1 x.exponent

/-- The product, rounded. -/
def mul? (x y : Binary64) : Option Binary64 :=
  let (num, den) := x.quotient
  let (num', den') := y.quotient
  round? (num * num') (den * den')

/-- The quotient, rounded. -/
def div? (x y : Binary64) : Option Binary64 :=
  let (num, den) := x.quotient
  let (num', den') := y.quotient
  round? (num * den') (den * num')

/-- The largest power of ten of the format. -/
def maxPower : Nat := 308

/-- Divides by a power of ten, which is rounded itself; in several steps if the
    power is larger than any of the format. -/
def overTenTo? (x : Binary64) (power : Nat) : Option Binary64 :=
  if power ≤ maxPower then (round? (Nat.pow 10 power) 1).bind x.div?
  else if x.significand = 0 then some x
  else do
    let y ← x.div? (← round? (Nat.pow 10 maxPower) 1)
    y.overTenTo? (power - maxPower)
termination_by power
decreasing_by simp only [maxPower] at *; omega

/-- The number times a power of ten; nothing past the largest number. -/
def scaleTen? (x : Binary64) (power : Int) : Option Binary64 :=
  if power < 0 then x.overTenTo? power.natAbs
  else if power ≤ maxPower then (round? (Nat.pow 10 power.natAbs) 1).bind x.mul?
  else if x.significand = 0 then some x
  else none

/-- A quotient with a power of ten taken out of it. -/
def overTen (num den : Nat) (power : Int) : Nat × Nat :=
  if 0 ≤ power then (num, den * Nat.pow 10 power.toNat) else (num * Nat.pow 10 (-power).toNat, den)

/-- Whether `digits * 10 ^ power` rounds to the number. -/
def readsBack (x : Binary64) (digits : Nat) (power : Int) : Bool :=
  let (n, d) := overTen digits 1 (-power)
  round? n d == some x

/-- Number of decimal digits. -/
def decimalLength (n : Nat) : Nat :=
  (Text.Decimal.natChars n).length

/-- The power of ten just below a positive quotient. -/
def decimalExponent (num den : Nat) : Int :=
  let guess : Int := (decimalLength num : Int) - (decimalLength den : Int)
  let (n, d) := overTen num den guess
  if n < d then guess - 1 else guess

/-- Of the two neighbours on the grid with `count` digits, the nearer one
    that reads back. -/
def onGrid (x : Binary64) (count : Nat) : Option (Nat × Int) :=
  let (num, den) := x.quotient
  let power := decimalExponent num den - (count : Int) + 1
  let (n, d) := overTen num den power
  let low := n / d
  let nearLow := 2 * (n % d) < d || (2 * (n % d) == d && low % 2 == 0)
  let (first, second) := if nearLow then (low, low + 1) else (low + 1, low)
  if readsBack x first power then some (first, power)
  else if readsBack x second power then some (second, power)
  else none

/-- Digits with trailing zeros moved into the power of ten. -/
def normal (fuel : Nat) (digits : Nat) (power : Int) : Nat × Int :=
  match fuel with
  | 0 => (digits, power)
  | fuel + 1 =>
    if digits % 10 = 0 ∧ digits ≠ 0 then normal fuel (digits / 10) (power + 1)
    else (digits, power)

/-- The fewest digits, times a power of ten, that round to the number. -/
def shortest (x : Binary64) : Nat × Int :=
  if x.significand = 0 then (0, 0)
  else
    match (List.range 17).findSome? fun i => onGrid x (i + 1) with
    | some (digits, power) => normal 20 digits power
    | none => (0, 0)

end Binary64

end PoolWatch
