import Mathlib.Data.Nat.Digits.Lemmas
import PoolWatch.Text.Decimal

/-! # Decimal texts read back

    A number in decimal has no leading zero, and reading its characters gives
    the number again.  The digits are the ones of the library's numerals, so
    that its lemmas on positional notation apply.

    `readChars_intChars` is the main statement: an integer of the range that
    is asked for is read from its own text. -/

namespace PoolWatch.Text

/-! ## Positional notation -/

theorem digits_eq (base : Nat) (hb : 2 ≤ base) (n : Nat) :
    digits base hb n = Nat.digits base n := by
  induction n using Nat.strongRecOn with
  | _ n ih =>
    rw [digits]
    split
    · next h => simp [h]
    · next h =>
      have hpos : 0 < n := Nat.pos_of_ne_zero h
      rw [ih _ (Nat.div_lt_self hpos hb), Nat.digits_def' hb hpos]

theorem ofDigits_eq (base : Nat) (ds : List Nat) : ofDigits base ds = Nat.ofDigits base ds := by
  induction ds with
  | nil => rfl
  | cons d ds ih => rw [ofDigits, ih, Nat.ofDigits_cons]

/-- The value of digits, most significant first, onto a running value. -/
def horner (base : Nat) : Nat → List Nat → Nat
  | acc, [] => acc
  | acc, d :: ds => horner base (base * acc + d) ds

theorem le_horner {base : Nat} (hb : 1 ≤ base) (acc : Nat) (ds : List Nat) :
    acc ≤ horner base acc ds := by
  induction ds generalizing acc with
  | nil => exact Nat.le_refl acc
  | cons d ds ih =>
    have h := ih (base * acc + d)
    have hmul : acc ≤ base * acc := Nat.le_mul_of_pos_left acc hb
    exact Nat.le_trans (by omega) h

theorem horner_append (base acc : Nat) (ds es : List Nat) :
    horner base acc (ds ++ es) = horner base (horner base acc ds) es := by
  induction ds generalizing acc with
  | nil => rfl
  | cons d ds ih => exact ih (base * acc + d)

theorem horner_reverse (base : Nat) (ds : List Nat) :
    horner base 0 ds.reverse = Nat.ofDigits base ds := by
  induction ds with
  | nil => rfl
  | cons d ds ih =>
    rw [List.reverse_cons, horner_append, ih, Nat.ofDigits_cons]
    simp only [horner]
    omega

/-- The first digit of a number is not zero. -/
theorem head?_reverse_digits_ne_zero (base n : Nat) :
    (Nat.digits base n).reverse.head? ≠ some 0 := by
  intro h
  rw [List.head?_reverse, List.getLast?_eq_some_iff] at h
  obtain ⟨ys, hys⟩ := h
  have hn : n ≠ 0 := by
    rintro rfl
    simp at hys
  have hlast := Nat.getLast_digit_ne_zero base hn
  simp [hys] at hlast

namespace Decimal

/-! ## Digits as characters -/

theorem digitValue?_digitChar {d : Nat} (h : d < 10) : digitValue? (digitChar d) = some d := by
  have hall : ∀ d < 10, digitValue? (digitChar d) = some d := by decide
  exact hall d h

/-- The digits of a number, most significant first; zero has one. -/
def places (n : Nat) : List Nat :=
  if n = 0 then [0] else (Nat.digits 10 n).reverse

theorem natChars_eq (n : Nat) : natChars n = (places n).map digitChar := by
  unfold natChars places
  split
  · rfl
  · rw [digits_eq, List.map_reverse]

theorem places_lt (n : Nat) : ∀ d ∈ places n, d < 10 := by
  intro d hd
  unfold places at hd
  split at hd
  · simp only [List.mem_singleton] at hd
    omega
  · exact Nat.digits_lt_base (by decide) (List.mem_reverse.1 hd)

theorem places_ne_nil (n : Nat) : places n ≠ [] := by
  unfold places
  split
  · simp
  · next h => simpa using Nat.digits_ne_nil_iff_ne_zero.2 h

theorem horner_places (n : Nat) : horner 10 0 (places n) = n := by
  unfold places
  split
  · next h => simp [horner, h]
  · rw [horner_reverse, Nat.ofDigits_digits]

/-- Only zero is written with a leading zero. -/
theorem head?_places {n : Nat} (h : n ≠ 0) : (places n).head? ≠ some 0 := by
  rw [places, if_neg h]
  exact head?_reverse_digits_ne_zero 10 n

theorem natChars_ne_nil (n : Nat) : natChars n ≠ [] := by
  rw [natChars_eq]
  simpa using places_ne_nil n

theorem mem_natChars {n : Nat} {c : Char} (h : c ∈ natChars n) : ∃ d < 10, c = digitChar d := by
  rw [natChars_eq, List.mem_map] at h
  obtain ⟨d, hd, rfl⟩ := h
  exact ⟨d, places_lt n d hd, rfl⟩

/-- What holds of every digit holds of every character of a number. -/
theorem forall_mem_natChars {p : Char → Prop} (n : Nat) (h : ∀ d < 10, p (digitChar d)) :
    ∀ c ∈ natChars n, p c := by
  intro c hc
  obtain ⟨d, hd, rfl⟩ := mem_natChars hc
  exact h d hd

/-- The text of a number starts with a digit. -/
theorem natChars_eq_cons (n : Nat) : ∃ d rest, d < 10 ∧ natChars n = digitChar d :: rest := by
  obtain ⟨c, rest, hcs⟩ := List.exists_cons_of_ne_nil (natChars_ne_nil n)
  obtain ⟨d, hd, rfl⟩ := mem_natChars (n := n) (c := c) (by simp [hcs])
  exact ⟨d, rest, hd, hcs⟩

/-! ## Reading -/

theorem foldl_digitChars (acc : Nat) (ds : List Nat) (h : ∀ d ∈ ds, d < 10) :
    (ds.map digitChar).foldl
      (fun acc c => acc.bind fun v => (digitValue? c).map (10 * v + ·)) (some acc) =
        some (horner 10 acc ds) := by
  induction ds generalizing acc with
  | nil => rfl
  | cons d ds ih =>
    have hd : d < 10 := h d (List.mem_cons_self ..)
    rw [List.map_cons, List.foldl_cons, digitValue?_digitChar hd]
    exact ih _ fun e he => h e (List.mem_cons_of_mem d he)

theorem natOfChars?_natChars (n : Nat) : natOfChars? (natChars n) = some n := by
  rw [natChars_eq, natOfChars?, foldl_digitChars 0 _ (places_lt n), horner_places]

/-- Digits whose value keeps below the bound are taken one by one. -/
theorem accumulate_digitChars (bound : Nat) (overflow : Fault) (acc : Nat) (ds : List Nat)
    (h : ∀ d ∈ ds, d < 10) (hle : horner 10 acc ds ≤ bound) :
    accumulate bound overflow acc (ds.map digitChar) = .ok (horner 10 acc ds) := by
  induction ds generalizing acc with
  | nil => rfl
  | cons d ds ih =>
    have hd : d < 10 := h d (List.mem_cons_self ..)
    -- the running value never passes the whole number
    have hstep : 10 * acc + d ≤ bound := Nat.le_trans (le_horner (by decide) _ ds) hle
    rw [List.map_cons, accumulate, digitValue?_digitChar hd]
    simp only [Nat.not_lt.2 hstep, if_false]
    exact ih _ (fun e he => h e (List.mem_cons_of_mem d he)) hle

theorem accumulate_natChars {bound n : Nat} (overflow : Fault) (h : n ≤ bound) :
    accumulate bound overflow 0 (natChars n) = .ok n := by
  have hle : horner 10 0 (places n) ≤ bound := by rwa [horner_places]
  rw [natChars_eq, accumulate_digitChars bound overflow 0 _ (places_lt n) hle, horner_places]

theorem digitChar_ne_sign {d : Nat} (h : d < 10) : digitChar d ≠ '+' ∧ digitChar d ≠ '-' := by
  have hall : ∀ d < 10, digitChar d ≠ '+' ∧ digitChar d ≠ '-' := by decide
  exact hall d h

/-- A natural number's text starts with a digit, so it is read unsigned. -/
theorem readChars_natChars (low : Nat) {high n : Nat} (h : n ≤ high) :
    readChars low high (natChars n) = .ok (n : Int) := by
  have hread := accumulate_natChars .tooLarge h
  obtain ⟨d, rest, hd, hcs⟩ := natChars_eq_cons n
  obtain ⟨hplus, hminus⟩ := digitChar_ne_sign hd
  rw [hcs] at hread ⊢
  rw [readChars.eq_def]
  split <;> simp_all [Except.map]

theorem readChars_intChars {low high : Nat} {n : Int} (hlow : -(low : Int) ≤ n)
    (hhigh : n ≤ high) : readChars low high (intChars n) = .ok n := by
  unfold intChars
  split
  · next hneg =>
    -- after a minus sign the digits are bounded by the other end of the range
    have habs : n.natAbs ≤ low := by omega
    have hlow0 : low ≠ 0 := by omega
    have hread := accumulate_natChars .tooSmall habs
    have hne := natChars_ne_nil n.natAbs
    cases hcs : natChars n.natAbs with
    | nil => exact absurd hcs hne
    | cons c rest =>
      rw [hcs] at hread
      simp only [readChars, hlow0, if_false, hread, Except.map]
      congr 1
      simp only [Int.ofNat_eq_natCast]
      omega
  · next hpos =>
    have habs : n.natAbs ≤ high := by omega
    rw [readChars_natChars low habs]
    congr 1
    omega

/-- An integer of a two's-complement width is read from its text. -/
theorem readSigned_ofInt {bits : Nat} {n : Int} (hlow : -(Nat.pow 2 (bits - 1) : Int) ≤ n)
    (hhigh : n < (Nat.pow 2 (bits - 1) : Int)) : readSigned bits (ofInt n) = .ok n := by
  unfold readSigned ofInt
  rw [String.toList_ofList]
  apply readChars_intChars
  · simpa using hlow
  · have hpos : 0 < Nat.pow 2 (bits - 1) := Nat.pow_pos (by decide)
    push_cast [Nat.cast_sub hpos]
    omega

end Decimal

end PoolWatch.Text
