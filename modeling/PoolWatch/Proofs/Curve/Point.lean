import PoolWatch.Proofs.Curve.Field

/-! # Extended coordinates

    What is computed with extended coordinates is what the curve's group
    says: sums, multiples and whether two points are the same.  A point that
    is written reads back as the same point. -/

namespace PoolWatch.Curve

/-- A point of the signature curve. -/
abbrev Spot : Type := Affine constants

namespace Point

/-- The coordinates are those of a point of the curve. -/
structure Is (p : Point) (a : Spot) : Prop where
  z_ne_zero : (p.z : Residue) ≠ 0
  x : (p.x : Residue) = a.x * p.z
  y : (p.y : Residue) = a.y * p.z
  t : (p.t : Residue) = a.x * a.y * p.z

variable {p q : Point} {a b : Spot}

/-! ## Sums and multiples -/

theorem zero_is : zero.Is 0 where
  z_ne_zero := by simp [zero]
  x := by simp [zero, Affine.zero_x]
  y := by simp [zero, Affine.zero_y]
  t := by simp [zero, Affine.zero_x]

theorem add_is (hp : p.Is a) (hq : q.Is b) : (p.add q).Is (a + b) := by
  have hx := Affine.add_x a b
  have hy := Affine.add_y a b
  have hplus := Affine.one_add_twist_ne_zero a b
  have hminus := Affine.one_sub_twist_ne_zero a b
  have htwist : a.twist b = (d : Residue) * a.x * b.x * a.y * b.y := rfl
  -- up to the factor `w` the four products are both sides of both fractions
  let w : Residue := 2 * p.z * q.z
  have hw : w ≠ 0 := mul_ne_zero (mul_ne_zero two_ne_zero hp.z_ne_zero) hq.z_ne_zero
  have hz : ((p.add q).z : Residue) = (w * (1 - a.twist b)) * (w * (1 + a.twist b)) := by
    simp only [add, ZMod.natCast_mod, Nat.cast_mul, Nat.cast_add, cast_sub, Nat.cast_ofNat,
      hp.t, hq.t, w, htwist]
    ring
  have hX : ((p.add q).x : Residue) = w * (a.x * b.y + a.y * b.x) * (w * (1 - a.twist b)) := by
    simp only [add, ZMod.natCast_mod, Nat.cast_mul, Nat.cast_add, cast_sub, Nat.cast_ofNat,
      hp.t, hq.t, hp.x, hq.x, hp.y, hq.y, w, htwist]
    ring
  have hY : ((p.add q).y : Residue) = w * (1 + a.twist b) * (w * (a.y * b.y + a.x * b.x)) := by
    simp only [add, ZMod.natCast_mod, Nat.cast_mul, Nat.cast_add, cast_sub, Nat.cast_ofNat,
      hp.t, hq.t, hp.x, hq.x, hp.y, hq.y, w, htwist]
    ring
  have hT : ((p.add q).t : Residue) =
      w * (a.x * b.y + a.y * b.x) * (w * (a.y * b.y + a.x * b.x)) := by
    simp only [add, ZMod.natCast_mod, Nat.cast_mul, Nat.cast_add, cast_sub, hp.x, hq.x, hp.y,
      hq.y, w]
    ring
  refine ⟨?_, ?_, ?_, ?_⟩
  · rw [hz]
    exact mul_ne_zero (mul_ne_zero hw hminus) (mul_ne_zero hw hplus)
  · rw [hX, hz, ← hx]
    ring
  · rw [hY, hz, ← hy]
    ring
  · rw [hT, hz, ← hx, ← hy]
    ring

theorem scale_is {bits n : Nat} (hn : n < 2 ^ bits) (hp : p.Is a) :
    (scale bits n p).Is (n • a) := by
  induction bits generalizing n p a with
  | zero =>
    obtain rfl : n = 0 := by simpa using hn
    rw [zero_nsmul]
    exact zero_is
  | succ bits ih =>
    have hhalf : n / 2 < 2 ^ bits := by
      rw [pow_succ] at hn
      omega
    have hrest : (scale bits (n / 2) (add p p)).Is ((2 * (n / 2)) • a) := by
      rw [mul_nsmul, two_nsmul]
      exact ih hhalf (add_is hp hp)
    unfold scale
    dsimp only
    split
    · next hodd =>
      have hsplit : 1 + 2 * (n / 2) = n := by omega
      rw [← hsplit, add_nsmul, one_nsmul, hsplit]
      exact add_is hp hrest
    · next heven =>
      have hsplit : 2 * (n / 2) = n := by omega
      rwa [hsplit] at hrest

theorem mul_is {n : Nat} (hn : n < 2 ^ 256) (hp : p.Is a) : (mul n p).Is (n • a) :=
  scale_is hn hp

theorem same_iff (hp : p.Is a) (hq : q.Is b) : p.same q = true ↔ a = b := by
  have hfactor : (p.z : Residue) * q.z ≠ 0 := mul_ne_zero hp.z_ne_zero hq.z_ne_zero
  unfold same
  rw [Bool.and_eq_true, beq_iff_eq, beq_iff_eq, ← ZMod.natCast_eq_natCast_iff',
    ← ZMod.natCast_eq_natCast_iff']
  simp only [Nat.cast_mul, hp.x, hq.x, hp.y, hq.y]
  constructor
  · rintro ⟨hx, hy⟩
    apply Affine.ext
    · apply mul_right_cancel₀ hfactor
      linear_combination hx
    · apply mul_right_cancel₀ hfactor
      linear_combination hy
  · rintro rfl
    constructor <;> ring

/-! ## In bytes -/

theorem length_encode (p : Point) : p.encode.length = 32 :=
  length_leOfNat 32 _

/-- What the bytes of a point count to. -/
theorem natOfLE_encode (hp : p.Is a) :
    natOfLE p.encode = a.y.val + signBit * (a.x.val % 2) := by
  have hx : p.x * inverse p.z % prime = a.x.val := by
    have hcast : ((p.x * inverse p.z : Nat) : Residue) = a.x := by
      rw [Nat.cast_mul, cast_inverse, hp.x, mul_inv_cancel_right₀ hp.z_ne_zero]
    rw [← hcast, ZMod.val_natCast]
  have hy : p.y * inverse p.z % prime = a.y.val := by
    have hcast : ((p.y * inverse p.z : Nat) : Residue) = a.y := by
      rw [Nat.cast_mul, cast_inverse, hp.y, mul_inv_cancel_right₀ hp.z_ne_zero]
    rw [← hcast, ZMod.val_natCast]
  have hfits : a.y.val + signBit * (a.x.val % 2) < span 32 := by
    have hlt := ZMod.val_lt a.y
    have hspan : span 32 = 2 * signBit := by decide
    have hprime : prime < signBit := by decide
    have hparity : a.x.val % 2 = 0 ∨ a.x.val % 2 = 1 := Nat.mod_two_eq_zero_or_one _
    rcases hparity with h | h <;> rw [h] <;> omega
  unfold encode
  dsimp only
  rw [hx, hy, natOfLE_leOfNat, Nat.mod_eq_of_lt hfits]

/-- The root that `x` is found as. -/
theorem x_sq (a : Spot) : a.x ^ 2 = (a.y ^ 2 - 1) * ((d : Residue) * a.y ^ 2 + 1)⁻¹ := by
  have hon : a.y ^ 2 - a.x ^ 2 = 1 + (d : Residue) * a.x ^ 2 * a.y ^ 2 := a.on
  have hne : (d : Residue) * a.y ^ 2 + 1 ≠ 0 := by
    intro h
    -- then `d` would be minus the square of an inverse
    have hy : a.y ≠ 0 := by
      intro hzero
      rw [hzero] at h
      simp at h
    apply d_nonsquare
    refine ⟨rootOfMinusOne / a.y, ?_⟩
    rw [div_mul_div_comm, rootOfMinusOne_sq, eq_div_iff (mul_ne_zero hy hy)]
    linear_combination h
  rw [eq_mul_inv_iff_mul_eq₀ hne]
  linear_combination -hon

/-- The root of the wanted parity is the one that was written. -/
theorem cast_of_parity {m : Nat} {x : Residue} (hm : m < prime)
    (h : (m : Residue) = x ∨ (m : Residue) = -x) :
    ((if m % 2 = x.val % 2 then m else sub 0 m : Nat) : Residue) = x := by
  have hplus (h : (m : Residue) = x) : m = x.val :=
    eq_of_cast_eq hm (ZMod.val_lt x) (h.trans (ZMod.natCast_zmod_val x).symm)
  have hminus (h : (m : Residue) = -x) : m = (-x).val :=
    eq_of_cast_eq hm (ZMod.val_lt (-x)) (h.trans (ZMod.natCast_zmod_val (-x)).symm)
  split
  · next hparity =>
    rcases h with hpos | hneg
    · exact hpos
    · -- the prime is odd, so only nothing has the parity of what it is minus
      by_contra hne
      have hval : (-x).val = prime - x.val := by
        rw [ZMod.neg_val, if_neg]
        rintro rfl
        exact hne (hneg.trans neg_zero)
      have hodd : prime % 2 = 1 := by decide
      have hlt := ZMod.val_lt x
      rw [hminus hneg, hval] at hparity
      omega
  · next hparity =>
    rw [cast_sub, Nat.cast_zero, zero_sub]
    rcases h with hpos | hneg
    · rw [← hplus hpos] at hparity
      exact absurd rfl hparity
    · rw [hneg, neg_neg]

/-- A point that is written reads back. -/
theorem decode?_encode (hp : p.Is a) : ∃ q, decode? p.encode = some q ∧ q.Is a := by
  have hlt := ZMod.val_lt a.y
  have hprime : prime < signBit := by decide
  have hparity : a.x.val % 2 < 2 := Nat.mod_lt _ (by decide)
  have hcount := natOfLE_encode hp
  have hy : natOfLE p.encode % signBit % prime = a.y.val := by
    rw [hcount, Nat.add_mul_mod_self_left, Nat.mod_eq_of_lt (hlt.trans hprime),
      Nat.mod_eq_of_lt hlt]
  have hodd : natOfLE p.encode / signBit % 2 = a.x.val % 2 := by
    rw [hcount, Nat.add_mul_div_left _ _ (by decide), Nat.div_eq_of_lt (hlt.trans hprime),
      zero_add, Nat.mod_mod]
  have hsquare : ((sub (a.y.val * a.y.val % prime) 1 *
      inverse ((d * (a.y.val * a.y.val % prime) + 1) % prime) % prime : Nat) : Residue) =
      a.x ^ 2 := by
    rw [x_sq, ZMod.natCast_mod, Nat.cast_mul, cast_sub, cast_inverse]
    simp only [ZMod.natCast_mod, Nat.cast_add, Nat.cast_mul, Nat.cast_one, ZMod.natCast_zmod_val,
      sq]
  obtain ⟨m, hroot, hm, hsign⟩ := sqrt?_of_sq hsquare
  have hx := cast_of_parity hm hsign
  refine ⟨⟨if m % 2 = a.x.val % 2 then m else sub 0 m, a.y.val, 1,
    (if m % 2 = a.x.val % 2 then m else sub 0 m) * a.y.val % prime⟩, ?_, ?_, ?_, ?_, ?_⟩
  · unfold decode?
    simp only [hy, hodd, hroot, Option.bind_eq_bind, Option.bind_some, Option.pure_def]
  · simp
  · rw [hx]
    simp
  · simp
  · rw [ZMod.natCast_mod, Nat.cast_mul, hx]
    simp

end Point

end PoolWatch.Curve
