import Mathlib.Algebra.Field.Basic
import Mathlib.Algebra.Group.Even
import Mathlib.Tactic.FieldSimp
import Mathlib.Tactic.LinearCombination
import Mathlib.Tactic.Ring

/-! # The group of a twisted Edwards curve

    The points of `-x² + y² = 1 + d x² y²`.  Their addition has one formula
    and no exceptions if `d` is no square but minus one is: then neither
    denominator is ever zero (`twist_sq_ne_one`).  Under this addition the points
    are a commutative group. -/

namespace PoolWatch.Curve

/-- The constants of a curve on which addition has no exceptions. -/
structure Constants (F : Type) [Field F] where
  two_ne_zero : (2 : F) ≠ 0
  d : F
  /-- A root of minus one. -/
  i : F
  i_sq : i * i = -1
  nonsquare : ¬ IsSquare d

/-- A point of the curve. -/
@[ext]
structure Affine {F : Type} [Field F] (k : Constants F) where
  x : F
  y : F
  on : y ^ 2 - x ^ 2 = 1 + k.d * x ^ 2 * y ^ 2

namespace Affine

variable {F : Type} [Field F] {k : Constants F}

/-! ## Denominators -/

/-- What the denominators of a sum differ from one by. -/
def twist (p q : Affine k) : F :=
  k.d * p.x * q.x * p.y * q.y

theorem twist_comm (p q : Affine k) : p.twist q = q.twist p := by
  unfold twist
  ring

/-- Were it a root of one, then `d` would be a square. -/
theorem twist_sq_ne_one (p q : Affine k) : p.twist q ^ 2 ≠ 1 := by
  intro h
  have hp := p.on
  have hq := q.on
  have hi := k.i_sq
  have htwist : p.twist q = k.d * p.x * q.x * p.y * q.y := rfl
  -- the point `q` gives a root of `d` in two ways
  have hroot (s : F) (hs : s ^ 2 = 1) : (k.i * p.x + s * p.twist q * p.y) ^ 2 =
      k.d * (p.x * p.y * (k.i * q.x + s * q.y)) ^ 2 := by
    grind
  have hzero (s : F) (hs : s ^ 2 = 1) : k.i * q.x + s * q.y = 0 := by
    by_contra hne
    have hfactor : p.x * p.y * (k.i * q.x + s * q.y) ≠ 0 := by
      grind
    apply k.nonsquare
    refine ⟨(k.i * p.x + s * p.twist q * p.y) / (p.x * p.y * (k.i * q.x + s * q.y)), ?_⟩
    rw [div_mul_div_comm, eq_div_iff (mul_ne_zero hfactor hfactor)]
    linear_combination -hroot s hs
  -- and if neither is one, the point has no `x`
  have hplus := hzero 1 (by ring)
  have hminus := hzero (-1) (by ring)
  have hsum : 2 * (k.i * q.x) = 0 := by linear_combination hplus + hminus
  have hx : k.i * q.x = 0 := (mul_eq_zero.1 hsum).resolve_left k.two_ne_zero
  grind

theorem one_add_twist_ne_zero (p q : Affine k) : 1 + p.twist q ≠ 0 := by
  intro h
  apply twist_sq_ne_one p q
  linear_combination (p.twist q - 1) * h

theorem one_sub_twist_ne_zero (p q : Affine k) : 1 - p.twist q ≠ 0 := by
  intro h
  apply twist_sq_ne_one p q
  linear_combination (-p.twist q - 1) * h

/-! ## Addition -/

/-- The sum of two points. -/
def add (p q : Affine k) : Affine k where
  x := (p.x * q.y + p.y * q.x) / (1 + p.twist q)
  y := (p.y * q.y + p.x * q.x) / (1 - p.twist q)
  on := by
    have hp := p.on
    have hq := q.on
    have hadd := one_add_twist_ne_zero p q
    have hsub := one_sub_twist_ne_zero p q
    have htwist : p.twist q = k.d * p.x * q.x * p.y * q.y := rfl
    field_simp
    grind

instance : Add (Affine k) := ⟨add⟩

/-- The neutral point. -/
instance : Zero (Affine k) := ⟨⟨0, 1, by ring⟩⟩

instance : Neg (Affine k) := ⟨fun p => ⟨-p.x, p.y, by linear_combination p.on⟩⟩

theorem zero_x : (0 : Affine k).x = 0 := rfl

theorem zero_y : (0 : Affine k).y = 1 := rfl

theorem neg_x (p : Affine k) : (-p).x = -p.x := rfl

theorem neg_y (p : Affine k) : (-p).y = p.y := rfl

theorem add_x (p q : Affine k) : (p + q).x * (1 + p.twist q) = p.x * q.y + p.y * q.x :=
  div_mul_cancel₀ _ (one_add_twist_ne_zero p q)

theorem add_y (p q : Affine k) : (p + q).y * (1 - p.twist q) = p.y * q.y + p.x * q.x :=
  div_mul_cancel₀ _ (one_sub_twist_ne_zero p q)

/-! ## Laws -/

protected theorem add_comm (p q : Affine k) : p + q = q + p := by
  have hadd := one_add_twist_ne_zero p q
  have hsub := one_sub_twist_ne_zero p q
  have htwist := twist_comm q p
  apply Affine.ext
  · apply mul_right_cancel₀ hadd
    rw [add_x, ← htwist, add_x]
    ring
  · apply mul_right_cancel₀ hsub
    rw [add_y, ← htwist, add_y]
    ring

protected theorem zero_add (p : Affine k) : 0 + p = p := by
  have htwist : (0 : Affine k).twist p = 0 := by
    unfold twist
    rw [zero_x]
    ring
  have hx := add_x 0 p
  have hy := add_y 0 p
  rw [htwist, zero_x, zero_y] at hx hy
  apply Affine.ext
  · linear_combination hx
  · linear_combination hy

protected theorem neg_add_cancel (p : Affine k) : -p + p = 0 := by
  have hx := add_x (-p) p
  have hy := add_y (-p) p
  have hadd := one_add_twist_ne_zero (-p) p
  have hsub := one_sub_twist_ne_zero (-p) p
  have htwist : (-p).twist p = -(k.d * p.x ^ 2 * p.y ^ 2) := by
    unfold twist
    rw [neg_x, neg_y]
    ring
  rw [neg_x, neg_y] at hx hy
  apply Affine.ext
  · apply mul_right_cancel₀ hadd
    rw [hx, zero_x]
    ring
  · apply mul_right_cancel₀ hsub
    rw [hy, zero_y, htwist]
    linear_combination p.on

/-! ## A quarter's turn

    Adding a point of order four exchanges the coordinates, up to the root of
    minus one.  What holds of every `x` holds of every `y` by it. -/

/-- The point a quarter further. -/
def turn (p : Affine k) : Affine k where
  x := k.i * p.y
  y := k.i * p.x
  on := by
    have hp := p.on
    have hi := k.i_sq
    grind

theorem turn_x (p : Affine k) : p.turn.x = k.i * p.y := rfl

theorem turn_y (p : Affine k) : p.turn.y = k.i * p.x := rfl

theorem eq_of_turn_x {p q : Affine k} (h : p.turn.x = q.turn.x) : p.y = q.y := by
  have hi : k.i ≠ 0 := by
    intro hzero
    have hsq := k.i_sq
    rw [hzero] at hsq
    simp at hsq
  exact mul_left_cancel₀ hi h

theorem add_turn (p q : Affine k) : p + q.turn = (p + q).turn := by
  have hadd := one_add_twist_ne_zero p q
  have hsub := one_sub_twist_ne_zero p q
  have htwist : p.twist q.turn = -p.twist q := by
    unfold twist
    rw [turn_x, turn_y]
    linear_combination k.d * p.x * q.x * p.y * q.y * k.i_sq
  have hx := add_x p q.turn
  have hy := add_y p q.turn
  rw [htwist, turn_x, turn_y] at hx hy
  apply Affine.ext
  · apply mul_right_cancel₀ hsub
    rw [turn_x]
    linear_combination hx - k.i * add_y p q
  · apply mul_right_cancel₀ hadd
    rw [turn_y]
    linear_combination hy - k.i * add_x p q

/-! ## Associativity

    The `x` of a sum of three points is written over one denominator; over
    both denominators the two ways to add differ by a multiple of the curve's
    equation. -/

/-- The `x` of a sum of two before it is divided. -/
def sumX (p q : Affine k) : F :=
  p.x * q.y + p.y * q.x

/-- The `y` of a sum of two before it is divided. -/
def sumY (p q : Affine k) : F :=
  p.y * q.y + p.x * q.x

/-- The `x` of a sum of three before it is divided. -/
def tripleX (p q r : Affine k) : F :=
  p.sumX q * (1 - p.twist q) * r.y + p.sumY q * (1 + p.twist q) * r.x

/-- What it is divided by. -/
def underX (p q r : Affine k) : F :=
  1 - p.twist q ^ 2 + k.d * p.sumX q * p.sumY q * r.x * r.y

theorem underX_eq (p q r : Affine k) :
    p.underX q r = (1 - p.twist q) * (1 + p.twist q) * (1 + (p + q).twist r) := by
  have hx := add_x p q
  have hy := add_y p q
  have htwist : (p + q).twist r = k.d * (p + q).x * r.x * (p + q).y * r.y := rfl
  unfold underX sumX sumY
  rw [htwist]
  linear_combination -k.d * r.x * r.y *
    ((p + q).y * (1 - p.twist q) * hx + (p.x * q.y + p.y * q.x) * hy)

theorem underX_ne_zero (p q r : Affine k) : p.underX q r ≠ 0 := by
  rw [underX_eq]
  exact mul_ne_zero (mul_ne_zero (one_sub_twist_ne_zero p q) (one_add_twist_ne_zero p q))
    (one_add_twist_ne_zero (p + q) r)

theorem add_add_x (p q r : Affine k) : (p + q + r).x * p.underX q r = p.tripleX q r := by
  have hx := add_x p q
  have hy := add_y p q
  have hsum := add_x (p + q) r
  rw [underX_eq]
  unfold tripleX sumX sumY
  linear_combination (1 - p.twist q ^ 2) * hsum + (1 - p.twist q) * r.y * hx +
    (1 + p.twist q) * r.x * hy

theorem tripleX_cross (p q r : Affine k) :
    p.tripleX q r * q.underX r p = q.tripleX r p * p.underX q r := by
  have hp := p.on
  have hq := q.on
  have hr := r.on
  unfold tripleX underX sumX sumY twist
  -- both sides are one polynomial modulo the three equations
  grind

theorem add_assoc_x (p q r : Affine k) : (p + q + r).x = (p + (q + r)).x := by
  apply mul_right_cancel₀ (mul_ne_zero (underX_ne_zero p q r) (underX_ne_zero q r p))
  calc (p + q + r).x * (p.underX q r * q.underX r p)
    _ = p.tripleX q r * q.underX r p := by rw [← mul_assoc, add_add_x]
    _ = q.tripleX r p * p.underX q r := tripleX_cross p q r
    _ = (q + r + p).x * (p.underX q r * q.underX r p) := by rw [← add_add_x]; ring
    _ = (p + (q + r)).x * (p.underX q r * q.underX r p) := by rw [Affine.add_comm p (q + r)]

protected theorem add_assoc (p q r : Affine k) : p + q + r = p + (q + r) := by
  apply Affine.ext
  · exact add_assoc_x p q r
  · apply eq_of_turn_x
    rw [← add_turn, ← add_turn, ← add_turn]
    exact add_assoc_x p q r.turn

/-- The points under addition. -/
instance : AddCommGroup (Affine k) where
  add_assoc := Affine.add_assoc
  zero_add := Affine.zero_add
  add_zero p := (Affine.add_comm p 0).trans (Affine.zero_add p)
  neg_add_cancel := Affine.neg_add_cancel
  add_comm := Affine.add_comm
  nsmul := nsmulRec
  zsmul := zsmulRec

end Affine

end PoolWatch.Curve
