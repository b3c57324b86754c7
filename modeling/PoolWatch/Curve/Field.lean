/-! # The prime field of the signature curve

    Residues modulo `2 ^ 255 - 19`, with powers, inverses and square roots.
    A residue is a natural number below the prime. -/

namespace PoolWatch.Curve

/-- The field's prime. -/
def prime : Nat := 0x7fffffffffffffffffffffffffffffffffffffffffffffffffffffffffffffed

/-- A power modulo `m`, over the lowest `bits` bits of the exponent. -/
def powMod (m : Nat) : Nat → Nat → Nat → Nat
  | 0, _, _ => 1 % m
  | bits + 1, base, e =>
    let rest := powMod m bits (base * base % m) (e / 2)
    if e % 2 = 1 then base * rest % m else rest

/-- A power in the field. -/
def pow (base e : Nat) : Nat :=
  powMod prime 256 base e

/-- The inverse of a nonzero residue, by Fermat. -/
def inverse (x : Nat) : Nat :=
  pow x (prime - 2)

/-- Difference of residues. -/
def sub (x y : Nat) : Nat :=
  (x + prime - y % prime) % prime

/-- A square root of minus one. -/
def rootOfMinusOne : Nat :=
  pow 2 ((prime - 1) / 4)

/-- A root of a residue that has one: the candidate `x ^ ((p + 3) / 8)`, or
    that times the root of minus one. -/
def sqrt? (x : Nat) : Option Nat :=
  let candidate := pow x ((prime + 3) / 8)
  if candidate * candidate % prime = x % prime then some candidate
  else
    let other := candidate * rootOfMinusOne % prime
    if other * other % prime = x % prime then some other else none

end PoolWatch.Curve
