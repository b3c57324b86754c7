import PoolWatch.Bytes
import PoolWatch.Curve.Field

/-! # Points of the signature curve

    The twisted Edwards curve `-x² + y² = 1 + d x² y²` over the field.
    Points are kept in extended coordinates, so that addition needs no
    inverse.  A point is written as its `y` in 32 bytes with the parity of
    `x` in the top bit. -/

namespace PoolWatch.Curve

/-- A point as `(X : Y : Z : T)` with `x = X / Z`, `y = Y / Z`, `x y = T / Z`. -/
structure Point where
  x : Nat
  y : Nat
  z : Nat
  t : Nat
  deriving DecidableEq, Repr

/-- The curve's constant, minus 121665 over 121666. -/
def d : Nat :=
  37095705934669439343138083508754565189542113879843219016388785533085940283555

namespace Point

/-- The neutral point. -/
def zero : Point := ⟨0, 1, 1, 0⟩

/-- The sum of two points; the formula has no exceptions on this curve. -/
def add (p q : Point) : Point :=
  let a := sub p.y p.x * sub q.y q.x % prime
  let b := (p.y + p.x) * (q.y + q.x) % prime
  let c := 2 * p.t * d % prime * q.t % prime
  let e := 2 * p.z * q.z % prime
  let f := sub b a
  let g := sub e c
  let h := (e + c) % prime
  let k := (b + a) % prime
  ⟨f * g % prime, h * k % prime, g * h % prime, f * k % prime⟩

/-- A multiple, over the lowest `bits` bits of the factor. -/
def scale : Nat → Nat → Point → Point
  | 0, _, _ => zero
  | bits + 1, n, p =>
    let rest := scale bits (n / 2) (add p p)
    if n % 2 = 1 then add p rest else rest

/-- The multiple of a point. -/
def mul (n : Nat) (p : Point) : Point :=
  scale 256 n p

/-- The same point, whatever the coordinates' common factor. -/
def same (p q : Point) : Bool :=
  p.x * q.z % prime == q.x * p.z % prime && p.y * q.z % prime == q.y * p.z % prime

/-- The weight of the highest bit of 32 bytes, which tells the parity of `x`. -/
def signBit : Nat := 0x8000000000000000000000000000000000000000000000000000000000000000

/-- The 32 bytes of a point. -/
def encode (p : Point) : Bytes :=
  let inv := inverse p.z
  let x := p.x * inv % prime
  let y := p.y * inv % prime
  leOfNat 32 (y + signBit * (x % 2))

/-- The point that 32 bytes write; nothing when no point has that `y`. -/
def decode? (bytes : Bytes) : Option Point := do
  let n := natOfLE bytes
  let y := n % signBit % prime
  let odd := n / signBit % 2
  let y2 := y * y % prime
  let u := sub y2 1
  let v := (d * y2 + 1) % prime
  let x ← sqrt? (u * inverse v % prime)
  let x := if x % 2 = odd then x else sub 0 x
  pure ⟨x, y, 1, x * y % prime⟩

/-- The generator of the prime-order group. -/
def generator : Point :=
  let x := 15112221349535400772501151409588531511454012693041857206046113283949847762202
  let y := 46316835694926478169428394003475163141307993866256225615783033603165251855960
  ⟨x, y, 1, x * y % prime⟩

end Point

/-- Whether 32 bytes write a point of the curve. -/
def isPoint (bytes : Bytes) : Bool :=
  (Point.decode? bytes).isSome

end PoolWatch.Curve
