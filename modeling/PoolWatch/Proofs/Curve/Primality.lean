import Mathlib.Data.Nat.ChineseRemainder
import Mathlib.FieldTheory.Finite.Basic
import Mathlib.Tactic.NormNum.Prime
import PoolWatch.Curve.Signature

/-! # The curve's two primes

    A number is prime if known primes divide its predecessor, their product
    reaches beyond its root, and some power shows that each of them divides
    the order of a residue modulo every prime factor.  A certificate lists
    such numbers, each after the primes that it rests on. -/

namespace PoolWatch.Curve

/-! ## Powers -/

theorem powMod_eq {m bits base e : Nat} (he : e < 2 ^ bits) :
    powMod m bits base e = base ^ e % m := by
  induction bits generalizing base e with
  | zero =>
    have hzero : e = 0 := by simpa using he
    simp [powMod, hzero]
  | succ bits ih =>
    have hhalf : e / 2 < 2 ^ bits := by
      rw [pow_succ] at he
      omega
    have hsquare : powMod m bits (base * base % m) (e / 2) = base ^ (2 * (e / 2)) % m := by
      rw [ih hhalf, ← Nat.pow_mod, pow_mul, sq]
    unfold powMod
    rw [hsquare]
    dsimp only
    split
    · next hodd =>
      have hexp : 2 * (e / 2) + 1 = e := by omega
      rw [Nat.mul_mod_mod, ← pow_succ', hexp]
    · next heven =>
      have hexp : 2 * (e / 2) = e := by omega
      rw [hexp]

/-! ## One number -/

/-- A prime of a number's predecessor divides that of a prime factor, if the
    part of a residue's power without it is apart from one. -/
theorem dvd_pred_of_apart {n a q r : Nat} (hq : q.Prime) [hr : Fact r.Prime] (hrn : r ∣ n)
    (hn : 2 ≤ n) (hqn : q ∣ n - 1) (hpow : a ^ (n - 1) % n = 1)
    (hapart : Nat.gcd (a ^ ((n - 1) / q) % n + (n - 1)) n = 1) : q ∣ r - 1 := by
  have hcast (k : Nat) : ((a ^ k % n : Nat) : ZMod r) = (a : ZMod r) ^ k := by
    rw [← Nat.cast_pow, ZMod.natCast_eq_natCast_iff]
    exact (Nat.mod_modEq _ n).of_dvd hrn
  have hone : (a : ZMod r) ^ (n - 1) = 1 := by
    rw [← hcast, hpow, Nat.cast_one]
  have hother : (a : ZMod r) ^ ((n - 1) / q) ≠ 1 := by
    intro hone
    -- then the factor is common to both numbers
    have hsum : r ∣ a ^ ((n - 1) / q) % n + (n - 1) := by
      rw [← ZMod.natCast_eq_zero_iff, Nat.cast_add, hcast, hone, Nat.cast_pred (by omega),
        (ZMod.natCast_eq_zero_iff n r).2 hrn]
      ring
    have hcommon := Nat.dvd_gcd hsum hrn
    rw [hapart] at hcommon
    exact hr.out.one_lt.ne' (Nat.dvd_one.1 hcommon)
  have hunit : (a : ZMod r) ≠ 0 := by
    intro hzero
    rw [hzero, zero_pow (by omega)] at hone
    exact zero_ne_one hone
  have horder : q ∣ orderOf (a : ZMod r) := by
    by_contra hnot
    apply hother
    rw [← orderOf_dvd_iff_pow_eq_one]
    have hall : orderOf (a : ZMod r) ∣ q * ((n - 1) / q) := by
      rw [Nat.mul_div_cancel' hqn]
      exact orderOf_dvd_of_pow_eq_one hone
    exact ((hq.coprime_iff_not_dvd.2 hnot).symm).dvd_of_dvd_mul_left hall
  exact horder.trans (ZMod.orderOf_dvd_card_sub_one hunit)

/-- A line of a certificate: a number, a residue, and primes of the number's predecessor. -/
structure Line where
  number : Nat
  residue : Nat
  primes : List Nat

/-- What such a line has to pass, given the primes before it. -/
def Line.passes (known : List Nat) (l : Line) : Bool :=
  let n := l.number
  2 ≤ n && n < 2 ^ 256 && n < (l.primes.prod + 1) ^ 2 &&
    decide (l.primes.Pairwise Nat.Coprime) &&
    powMod n 256 l.residue (n - 1) == 1 &&
    l.primes.all fun q => known.contains q && (n - 1) % q == 0 &&
      Nat.gcd (powMod n 256 l.residue ((n - 1) / q) + (n - 1)) n == 1

theorem Line.prime_of_passes {known : List Nat} {l : Line} (hknown : ∀ q ∈ known, q.Prime)
    (h : l.passes known = true) : l.number.Prime := by
  unfold Line.passes at h
  simp only [Bool.and_eq_true, decide_eq_true_eq, beq_iff_eq, List.all_eq_true,
    List.contains_eq_mem] at h
  obtain ⟨⟨⟨⟨⟨hn, hfits⟩, hlarge⟩, hcoprime⟩, hpow⟩, hprimes⟩ := h
  have hexact (e : Nat) (he : e ≤ l.number - 1) :
      powMod l.number 256 l.residue e = l.residue ^ e % l.number :=
    powMod_eq (by omega)
  rw [hexact _ le_rfl] at hpow
  by_contra hnot
  -- the least factor is one more than a multiple of every prime of the line
  have hfactor : l.number.minFac.Prime := Nat.minFac_prime (by omega)
  have : Fact l.number.minFac.Prime := ⟨hfactor⟩
  have hdvd : l.primes.prod ∣ l.number.minFac - 1 := by
    rw [← Nat.modEq_zero_iff_dvd, Nat.modEq_list_prod_iff hcoprime]
    intro i
    obtain ⟨⟨hmem, hmod⟩, hapart⟩ := hprimes _ (List.get_mem l.primes i)
    rw [hexact _ (Nat.div_le_self _ _)] at hapart
    rw [Nat.modEq_zero_iff_dvd]
    exact dvd_pred_of_apart (hknown _ hmem) (Nat.minFac_dvd _) hn
      (Nat.dvd_of_mod_eq_zero hmod) hpow hapart
  -- so the least factor is beyond the root
  have hpos : 0 < l.number.minFac - 1 := by
    have hlt := hfactor.one_lt
    omega
  have hle : l.primes.prod + 1 ≤ l.number.minFac := by
    have hle := Nat.le_of_dvd hpos hdvd
    omega
  have hroot := Nat.minFac_sq_le_self (by omega) hnot
  have hsquare := Nat.pow_le_pow_left hle 2
  omega

/-! ## A certificate -/

/-- The lines pass one after the other, each given the primes before it. -/
def passes : List Nat → List Line → Bool
  | _, [] => true
  | known, l :: rest => l.passes known && passes (l.number :: known) rest

theorem prime_of_passes {known : List Nat} {lines : List Line} (hknown : ∀ q ∈ known, q.Prime)
    (h : passes known lines = true) : ∀ l ∈ lines, l.number.Prime := by
  induction lines generalizing known with
  | nil => simp
  | cons l rest ih =>
    obtain ⟨hline, hrest⟩ := Bool.and_eq_true_iff.1 h
    have hprime := Line.prime_of_passes hknown hline
    intro l' hl'
    rcases List.mem_cons.1 hl' with rfl | hl'
    · exact hprime
    · exact ih (List.forall_mem_cons.2 ⟨hprime, hknown⟩) hrest l' hl'

/-- The primes that the certificate starts from. -/
def smallPrimes : List Nat :=
  [127, 75707, 531581, 1224481, 1923133, 8574133]

theorem prime_of_smallPrimes : ∀ q ∈ smallPrimes, q.Prime := by
  simp only [smallPrimes, List.forall_mem_cons]
  norm_num

/-- The certificate of the field's prime and of the generator's order. -/
def certificate : List Line := [
  ⟨1919519569386763, 2, [127, 8574133]⟩,
  ⟨75445702479781427272750846543864801, 7, [75707, 1919519569386763]⟩,
  ⟨74058212732561358302231226437062788676166966415465897661863160754340907, 2,
    [1923133, 75445702479781427272750846543864801]⟩,
  ⟨prime, 2, [74058212732561358302231226437062788676166966415465897661863160754340907]⟩,
  ⟨1257559732178653, 2, [531581, 1224481]⟩,
  ⟨4434155615661930479, 17, [1257559732178653]⟩,
  ⟨172054593956031949258510691, 2, [4434155615661930479]⟩,
  ⟨19757330305831588566944191468367130476339, 2, [172054593956031949258510691]⟩,
  ⟨276602624281642239937218680557139826668747, 2,
    [19757330305831588566944191468367130476339]⟩,
  ⟨order, 2, [276602624281642239937218680557139826668747]⟩]

theorem prime_of_certificate {n : Nat} (hn : n ∈ certificate.map Line.number) : n.Prime := by
  -- a few thousand multiplications, which the kernel carries out
  have hpasses : passes smallPrimes certificate = true := by decide +kernel
  obtain ⟨l, hl, rfl⟩ := List.mem_map.1 hn
  exact prime_of_passes prime_of_smallPrimes hpasses l hl

theorem prime_prime : prime.Prime :=
  prime_of_certificate (by simp [certificate])

theorem order_prime : order.Prime :=
  prime_of_certificate (by simp [certificate])

instance : Fact prime.Prime := ⟨prime_prime⟩

instance : Fact order.Prime := ⟨order_prime⟩

end PoolWatch.Curve
