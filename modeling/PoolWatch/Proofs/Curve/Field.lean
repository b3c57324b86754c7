import Mathlib.NumberTheory.LegendreSymbol.Basic
import Mathlib.Tactic.LinearCombination
import PoolWatch.Proofs.Curve.Edwards
import PoolWatch.Proofs.Curve.Primality

/-! # The curve's field

    Arithmetic on naturals below the prime is that of the field: differences,
    powers and inverses are the field's own, and a square's root is found.
    Minus one is a square and the curve's constant is none, so that its
    points are a group. -/

namespace PoolWatch.Curve

/-- A residue as an element of the field. -/
abbrev Residue : Type := ZMod prime

theorem prime_pos : 0 < prime := prime_prime.pos

/-- Two naturals below the prime are one residue only if they are equal. -/
theorem eq_of_cast_eq {m n : Nat} (hm : m < prime) (hn : n < prime)
    (h : (m : Residue) = n) : m = n := by
  rw [ZMod.natCast_eq_natCast_iff', Nat.mod_eq_of_lt hm, Nat.mod_eq_of_lt hn] at h
  exact h

/-! ## Differences, powers, inverses -/

theorem cast_sub (m n : Nat) : (sub m n : Residue) = m - n := by
  have hle : n % prime ≤ m + prime := (Nat.mod_lt n prime_pos).le.trans (Nat.le_add_left _ _)
  unfold sub
  rw [ZMod.natCast_mod, Nat.cast_sub hle, ZMod.natCast_mod, Nat.cast_add, ZMod.natCast_self,
    add_zero]

theorem pow_eq {base e : Nat} (he : e < 2 ^ 256) : pow base e = base ^ e % prime :=
  powMod_eq he

theorem pow_lt_prime {base e : Nat} (he : e < 2 ^ 256) : pow base e < prime := by
  rw [pow_eq he]
  exact Nat.mod_lt _ prime_pos

theorem cast_pow {base e : Nat} (he : e < 2 ^ 256) :
    (pow base e : Residue) = (base : Residue) ^ e := by
  rw [pow_eq he, ZMod.natCast_mod, Nat.cast_pow]

theorem cast_inverse (n : Nat) : (inverse n : Residue) = (n : Residue)⁻¹ := by
  have hpow : (inverse n : Residue) = (n : Residue) ^ (prime - 2) := cast_pow (by decide)
  rw [hpow]
  by_cases hzero : (n : Residue) = 0
  · rw [hzero, inv_zero, zero_pow (by decide)]
  · apply eq_inv_of_mul_eq_one_left
    have hsucc : prime - 2 + 1 = prime - 1 := by decide
    rw [← pow_succ, hsucc, ZMod.pow_card_sub_one_eq_one hzero]

/-! ## Roots -/

theorem rootOfMinusOne_sq : (rootOfMinusOne : Residue) * rootOfMinusOne = -1 := by
  have hnat : (rootOfMinusOne * rootOfMinusOne + 1) % prime = 0 := by decide +kernel
  have hcast : ((rootOfMinusOne * rootOfMinusOne + 1 : Nat) : Residue) = 0 :=
    (ZMod.natCast_eq_zero_iff _ _).2 (Nat.dvd_of_mod_eq_zero hnat)
  push_cast at hcast
  linear_combination hcast

/-- The square of the candidate, for a square: the square or minus it. -/
theorem candidate_sq (r : Residue) : ((r ^ 2) ^ ((prime + 3) / 8)) ^ 2 = r ^ 2 ∨
    ((r ^ 2) ^ ((prime + 3) / 8)) ^ 2 = -r ^ 2 := by
  have hexp : 2 * ((prime + 3) / 8 * 2) = prime / 2 + 2 := by decide
  have hpow : ((r ^ 2) ^ ((prime + 3) / 8)) ^ 2 = r ^ (prime / 2) * r ^ 2 := by
    rw [← pow_mul, ← pow_mul, hexp, pow_add]
  rw [hpow]
  by_cases hzero : r = 0
  · simp [hzero]
  · rcases ZMod.pow_div_two_eq_neg_one_or_one prime hzero with hone | hminus
    · exact .inl (by rw [hone, one_mul])
    · exact .inr (by rw [hminus, neg_one_mul])

theorem sq_of_cast {m n : Nat} : m * m % prime = n % prime ↔ (m : Residue) ^ 2 = n := by
  rw [← ZMod.natCast_eq_natCast_iff', Nat.cast_mul, sq]

/-- A square has its root found, up to the sign. -/
theorem sqrt?_of_sq {n : Nat} {r : Residue} (h : (n : Residue) = r ^ 2) :
    ∃ m, sqrt? n = some m ∧ m < prime ∧ ((m : Residue) = r ∨ (m : Residue) = -r) := by
  have hfits : (prime + 3) / 8 < 2 ^ 256 := by decide
  have hcandidate : (pow n ((prime + 3) / 8) : Residue) = (r ^ 2) ^ ((prime + 3) / 8) := by
    rw [cast_pow hfits, h]
  have hroot (m : Nat) (hm : (m : Residue) ^ 2 = n) : (m : Residue) = r ∨ (m : Residue) = -r :=
    sq_eq_sq_iff_eq_or_eq_neg.1 (hm.trans h)
  unfold sqrt?
  by_cases hsq : (pow n ((prime + 3) / 8) : Residue) ^ 2 = n
  · exact ⟨_, if_pos (sq_of_cast.2 hsq), pow_lt_prime hfits, hroot _ hsq⟩
  · -- else the candidate's square is minus the number, and the root of minus one mends that
    have hminus : (pow n ((prime + 3) / 8) : Residue) ^ 2 = -n := by
      rw [hcandidate, h] at hsq ⊢
      exact (candidate_sq r).resolve_left hsq
    have hother : ((pow n ((prime + 3) / 8) * rootOfMinusOne % prime : Nat) : Residue) ^ 2 = n := by
      rw [ZMod.natCast_mod, Nat.cast_mul]
      linear_combination (rootOfMinusOne : Residue) ^ 2 * hminus - n * rootOfMinusOne_sq
    refine ⟨_, ?_, Nat.mod_lt _ prime_pos, hroot _ hother⟩
    rw [if_neg (mt sq_of_cast.1 hsq), if_pos (sq_of_cast.2 hother)]

/-! ## The curve -/

theorem two_ne_zero : (2 : Residue) ≠ 0 := by
  intro h
  have hdvd : prime ∣ 2 := (ZMod.natCast_eq_zero_iff 2 prime).1 h
  exact absurd hdvd (by decide)

/-- The power that is one for squares is minus one for it. -/
theorem d_nonsquare : ¬ IsSquare (d : Residue) := by
  have hnat : (pow d (prime / 2) + 1) % prime = 0 := by decide +kernel
  have hminus : (d : Residue) ^ (prime / 2) + 1 = 0 := by
    rw [← cast_pow (by decide), ← Nat.cast_one, ← Nat.cast_add]
    exact (ZMod.natCast_eq_zero_iff _ _).2 (Nat.dvd_of_mod_eq_zero hnat)
  have hd : (d : Residue) ≠ 0 := by
    intro hzero
    have hdvd := (ZMod.natCast_eq_zero_iff _ _).1 hzero
    exact absurd hdvd (by decide)
  intro hsquare
  rw [(ZMod.euler_criterion prime hd).1 hsquare] at hminus
  apply two_ne_zero
  linear_combination hminus

/-- The signature curve's constants. -/
def constants : Constants Residue where
  two_ne_zero := two_ne_zero
  d := d
  i := rootOfMinusOne
  i_sq := rootOfMinusOne_sq
  nonsquare := d_nonsquare

end PoolWatch.Curve
