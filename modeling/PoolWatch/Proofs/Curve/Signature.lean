import Mathlib.GroupTheory.OrderOfElement
import PoolWatch.Proofs.Curve.Point

/-! # What is signed is verified

    The generator's multiples are a group of prime order.  A secret factor is
    no multiple of that order, so a public key is never of small order; a
    commitment is only if the nonce is zero.  Every other signature verifies. -/

namespace PoolWatch.Curve

/-! ## The generator -/

/-- The generator as a point of the curve. -/
def base : Spot where
  x := Point.generator.x
  y := Point.generator.y
  on := by
    have hnat : Point.generator.y ^ 2 % prime =
        (1 + d * Point.generator.x ^ 2 * Point.generator.y ^ 2 + Point.generator.x ^ 2) %
          prime := by
      decide +kernel
    have hcast := (ZMod.natCast_eq_natCast_iff' _ _ prime).2 hnat
    have hconstant : constants.d = (d : Residue) := rfl
    push_cast at hcast
    rw [hconstant]
    linear_combination hcast

theorem generator_is : Point.generator.Is base where
  z_ne_zero := by simp [Point.generator]
  x := by simp [base, Point.generator]
  y := by simp [base, Point.generator]
  t := by
    have hproduct : (Point.generator.t : Residue) = Point.generator.x * Point.generator.y := by
      rw [← Nat.cast_mul]
      exact ZMod.natCast_mod _ prime
    simpa [base, Point.generator] using hproduct

theorem order_nsmul_base : order • base = 0 := by
  -- the multiple is computed in the coordinates and compared there
  have hsame : (Point.generator.mul order).same .zero = true := by decide +kernel
  exact (Point.same_iff (Point.mul_is (by decide) generator_is) Point.zero_is).1 hsame

theorem base_ne_zero : base ≠ 0 := by
  have hsame : Point.generator.same .zero = false := by decide +kernel
  intro h
  rw [(Point.same_iff generator_is Point.zero_is).2 h] at hsame
  cases hsame

theorem addOrderOf_base : addOrderOf base = order :=
  addOrderOf_eq_prime order_nsmul_base base_ne_zero

/-- A multiple of the generator is neutral if the order divides the factor. -/
theorem nsmul_base_eq_zero_iff (n : Nat) : n • base = 0 ↔ order ∣ n := by
  rw [← addOrderOf_base, addOrderOf_dvd_iff_nsmul_eq_zero]

/-- A multiple of the generator is of small order only if it is neutral. -/
theorem isSmallOrder_iff {p : Point} {n : Nat} (hp : p.Is (n • base)) :
    isSmallOrder p = true ↔ order ∣ n := by
  have height : Nat.Coprime order 8 := by decide
  unfold isSmallOrder
  rw [Point.same_iff (Point.mul_is (by decide) hp) Point.zero_is, ← mul_nsmul',
    nsmul_base_eq_zero_iff]
  exact height.dvd_mul_left

/-! ## Factors -/

theorem factorOf_lt (data : Bytes) : factorOf data < order :=
  Nat.mod_lt _ order_prime.pos

theorem lt_of_lt_order {n : Nat} (hn : n < order) : n < 2 ^ 256 :=
  hn.trans (by decide)

/-- The factor is eight times a number too small for the order to divide. -/
theorem not_order_dvd_secretFactor (seed : Bytes) : ¬ order ∣ secretFactor seed := by
  intro h
  have height : Nat.Coprime order 8 := by decide
  let m := natOfLE ((Hash.Sha512.digest seed).take 32) % topBit / 8 + topBit / 8
  have hfactor : secretFactor seed = m * 8 := by
    have htop : topBit = topBit / 8 * 8 := by decide
    unfold secretFactor
    dsimp only [m]
    omega
  have hpos : 0 < m := by
    have htop : 0 < topBit / 8 := by decide
    omega
  have hlt : m < order := by
    have hmod : natOfLE ((Hash.Sha512.digest seed).take 32) % topBit < topBit :=
      Nat.mod_lt _ (by decide)
    have horder : topBit / 8 + topBit / 8 < order := by decide
    omega
  rw [hfactor] at h
  exact Nat.not_dvd_of_pos_of_lt hpos hlt (height.dvd_of_dvd_mul_right h)

theorem secretFactor_lt (seed : Bytes) : secretFactor seed < 2 ^ 256 := by
  have hmod : natOfLE ((Hash.Sha512.digest seed).take 32) % topBit < topBit :=
    Nat.mod_lt _ (by decide)
  have htop : topBit + topBit < 2 ^ 256 := by decide
  unfold secretFactor
  dsimp only
  omega

/-! ## Signatures -/

/-- What a signature is challenged with. -/
def challenge (seed message : Bytes) : Nat :=
  factorOf ((Point.generator.mul (nonce seed message)).encode ++ publicKey seed ++ message)

/-- What it answers. -/
def response (seed message : Bytes) : Nat :=
  (nonce seed message + challenge seed message * secretFactor seed) % order

theorem sign_eq (seed message : Bytes) : sign seed message =
    (Point.generator.mul (nonce seed message)).encode ++ leOfNat 32 (response seed message) :=
  rfl

theorem length_sign (seed message : Bytes) : (sign seed message).length = 64 := by
  rw [sign_eq, List.length_append, Point.length_encode, length_leOfNat]

theorem take_sign (seed message : Bytes) :
    (sign seed message).take 32 = (Point.generator.mul (nonce seed message)).encode := by
  rw [sign_eq]
  exact List.take_left' (Point.length_encode _)

theorem natOfLE_drop_sign (seed message : Bytes) :
    natOfLE ((sign seed message).drop 32) = response seed message := by
  have hfits : response seed message < span 32 :=
    (Nat.mod_lt _ order_prime.pos).trans (by decide)
  rw [sign_eq, List.drop_left' (Point.length_encode _), natOfLE_leOfNat, Nat.mod_eq_of_lt hfits]

/-- The answer is the commitment and as many times the key as was challenged. -/
theorem response_nsmul (seed message : Bytes) : response seed message • base =
    nonce seed message • base + challenge seed message • (secretFactor seed • base) := by
  unfold response
  rw [← addOrderOf_base, mod_addOrderOf_nsmul, add_nsmul, mul_nsmul']

/-- The key of a seed reads as a multiple of the generator. -/
theorem decode?_publicKey (seed : Bytes) :
    ∃ p, Point.decode? (publicKey seed) = some p ∧ p.Is (secretFactor seed • base) :=
  Point.decode?_encode (Point.mul_is (secretFactor_lt seed) generator_is)

/-- The commitment of a signature reads as another. -/
theorem decode?_sign (seed message : Bytes) :
    ∃ p, Point.decode? ((sign seed message).take 32) = some p ∧
      p.Is (nonce seed message • base) := by
  rw [take_sign]
  exact Point.decode?_encode (Point.mul_is (lt_of_lt_order (factorOf_lt _)) generator_is)

/-- The check of a signature whose points can be read. -/
theorem verify_eq {key message signature : Bytes} {p q : Point}
    (hkey : Point.decode? key = some p)
    (hcommitment : Point.decode? (signature.take 32) = some q) :
    verify key message signature =
      (signature.length == 64 && decide (natOfLE (signature.drop 32) < order) &&
        !isSmallOrder p && !isSmallOrder q &&
        (Point.generator.mul (natOfLE (signature.drop 32))).same
          (q.add (p.mul (factorOf (signature.take 32 ++ key ++ message))))) := by
  unfold verify
  rw [hkey, Option.any_some, hcommitment, Option.any_some]

/-- A signature verifies under its seed's key, unless its nonce is zero: the
    commitment is refused then. -/
theorem verify_sign (seed message : Bytes) :
    verify (publicKey seed) message (sign seed message) = decide (nonce seed message ≠ 0) := by
  have hnonce : nonce seed message < order := factorOf_lt _
  have hchallenge : challenge seed message < order := factorOf_lt _
  have hresponse : response seed message < order := Nat.mod_lt _ order_prime.pos
  obtain ⟨p, hkey, hp⟩ := decode?_publicKey seed
  obtain ⟨q, hcommitment, hq⟩ := decode?_sign seed message
  -- the key is never refused as small, the commitment if it is neutral
  have hlarge : isSmallOrder p = false := by
    rw [Bool.eq_false_iff, ne_eq, isSmallOrder_iff hp]
    exact not_order_dvd_secretFactor seed
  have hsmall : isSmallOrder q = decide (nonce seed message = 0) := by
    rw [Bool.eq_iff_iff, isSmallOrder_iff hq, decide_eq_true_iff]
    constructor
    · intro h
      exact Nat.eq_zero_of_dvd_of_lt h hnonce
    · intro h
      rw [h]
      exact dvd_zero order
  have hequation : (Point.generator.mul (response seed message)).same
      (q.add (p.mul (challenge seed message))) = true := by
    have hleft := Point.mul_is (lt_of_lt_order hresponse) generator_is
    have hright := Point.add_is hq (Point.mul_is (lt_of_lt_order hchallenge) hp)
    exact (Point.same_iff hleft hright).2 (response_nsmul seed message)
  rw [verify_eq hkey hcommitment, length_sign, natOfLE_drop_sign, take_sign, ← challenge, hlarge,
    hsmall, hequation, decide_eq_true hresponse]
  simp

end PoolWatch.Curve
