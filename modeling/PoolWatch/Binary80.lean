import PoolWatch.Binary64

/-! # Binary80

    Numbers whose significand has 64 bits, wide enough to scale a binary64 by
    powers of ten with hardly a loss.  Every product is rounded to the
    nearest of them.  Their exponents are not bounded: what leaves the range
    of the binary64 numbers is told when one of those is asked for. -/

namespace PoolWatch

/-- A magnitude `significand * 2 ^ exponent`. -/
structure Binary80 where
  significand : Nat
  exponent : Int
  deriving DecidableEq, Repr

namespace Binary80

/-- The place of the top bit of a significand. -/
def topBit : Nat := 63

/-- The nearest number to `m * 2 ^ q`, ties to even. -/
def round (m : Nat) (q : Int) : Binary80 :=
  let excess := m.log2 - topBit
  ⟨Binary64.roundDiv m (Nat.pow 2 excess), q + excess⟩

/-- The nearest number to a quotient, ties to even. -/
def ofQuotient (num den : Nat) : Binary80 :=
  if num = 0 then ⟨0, 0⟩
  else
    let guess : Int := (num.log2 : Int) - (den.log2 : Int)
    let (n, d) := Binary64.scale num den (-guess)
    let top := if n < d then guess - 1 else guess
    let q := top - topBit
    let (n, d) := Binary64.scale num den (-q)
    ⟨Binary64.roundDiv n d, q⟩

/-- The nearest number to a power of ten. -/
def ten (power : Int) : Binary80 :=
  let (num, den) := Binary64.overTen 1 1 (-power)
  ofQuotient num den

/-- The product, rounded. -/
def mul (a b : Binary80) : Binary80 :=
  round (a.significand * b.significand) (a.exponent + b.exponent)

/-- The value as a quotient. -/
def quotient (x : Binary80) : Nat × Nat :=
  Binary64.scale x.significand 1 x.exponent

/-- Whether a number is less than another. -/
def lt (a b : Binary80) : Bool :=
  let (n, d) := a.quotient
  let (m, e) := b.quotient
  n * e < m * d

/-- The integer part. -/
def floor (x : Binary80) : Nat :=
  let (n, d) := x.quotient
  n / d

/-- Every binary64 is one of these numbers. -/
def ofBinary64 (x : Binary64) : Binary80 := ⟨x.significand, x.exponent⟩

/-- The largest binary64. -/
def largest : Binary80 := ⟨0x1fffffffffffff, 971⟩

/-- The nearest binary64; nothing for a number past the largest. -/
def toBinary64? (x : Binary80) : Option Binary64 :=
  if largest.lt x then none
  else
    let (n, d) := x.quotient
    Binary64.round? n d

/-- Multiplies by a number several times. -/
def mulTimes (x factor : Binary80) : Nat → Binary80
  | 0 => x
  | count + 1 => (x.mul factor).mulTimes factor count

/-- Multiplies by a power of ten, hundreds of the exponent first, then tens,
    then units. -/
def scaleTen (x : Binary80) (power : Int) : Binary80 :=
  let n := power.natAbs
  let unit (k : Int) : Binary80 := if 0 ≤ power then ten k else ten (-k)
  ((x.mulTimes (unit 100) (n / 100)).mulTimes (unit 10) (n % 100 / 10)).mulTimes (unit 1) (n % 10)

end Binary80

end PoolWatch
