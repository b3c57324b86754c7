import Mathlib.Data.String.Basic
import PoolWatch.Proofs.Text.Decimal

/-! # Decimal texts in order

    Texts are in the order of their first different characters.  Two numbers
    with equally many digits are in the order of their texts
    (`natChars_lt_iff`), and an integer with a sign comes before every one
    without (`ofInt_lt_of_neg`).  Two with a sign are in the order of their
    magnitudes, so the lesser one comes last. -/

namespace PoolWatch.Text

/-- Of two numbers with equally many digits, the one that is ahead stays
    ahead. -/
theorem horner_lt {acc acc' : Nat} (hlt : acc < acc') {ds es : List Nat}
    (hlength : ds.length = es.length) (hds : ∀ d ∈ ds, d < 10) :
    horner 10 acc ds < horner 10 acc' es := by
  induction ds generalizing acc acc' es with
  | nil =>
    obtain rfl := List.length_eq_zero_iff.1 hlength.symm
    exact hlt
  | cons d ds ih =>
    obtain ⟨e, es, rfl⟩ := List.exists_cons_of_length_eq_add_one hlength.symm
    obtain ⟨hd, hds⟩ := List.forall_mem_cons.1 hds
    have hahead : 10 * acc + d < 10 * acc' + e := by omega
    exact ih hahead (by simpa using hlength) hds

namespace Decimal

theorem digitChar_lt_iff {d e : Nat} (hd : d < 10) (he : e < 10) :
    digitChar d < digitChar e ↔ d < e := by
  have hall : ∀ d < 10, ∀ e < 10, digitChar d < digitChar e ↔ d < e := by decide
  exact hall d hd e he

/-- Equally many digits are in the order of their values. -/
theorem map_digitChar_lt_iff (acc : Nat) {ds es : List Nat} (hlength : ds.length = es.length)
    (hds : ∀ d ∈ ds, d < 10) (hes : ∀ e ∈ es, e < 10) :
    ds.map digitChar < es.map digitChar ↔ horner 10 acc ds < horner 10 acc es := by
  induction ds generalizing acc es with
  | nil =>
    obtain rfl := List.length_eq_zero_iff.1 hlength.symm
    simp [horner]
  | cons d ds ih =>
    obtain ⟨e, es, rfl⟩ := List.exists_cons_of_length_eq_add_one hlength.symm
    have hrest : ds.length = es.length := by simpa using hlength
    obtain ⟨hd, hds'⟩ := List.forall_mem_cons.1 hds
    obtain ⟨he, hes'⟩ := List.forall_mem_cons.1 hes
    rw [List.map_cons, List.map_cons, List.cons_lt_cons_iff, digitChar_lt_iff hd he, horner, horner]
    -- the first different digit decides for the texts as for the numbers
    rcases Nat.lt_trichotomy d e with hless | rfl | hmore
    · exact iff_of_true (.inl hless) (horner_lt (by omega) hrest hds')
    · simp only [Nat.lt_irrefl, true_and, false_or]
      exact ih _ hrest hds' hes'
    · have hahead := horner_lt (show 10 * acc + e < 10 * acc + d by omega) hrest.symm hes'
      have hchars := (digitChar_lt_iff he hd).2 hmore
      refine iff_of_false ?_ (Nat.lt_asymm hahead)
      rintro (hless | ⟨hsame, -⟩)
      · exact Nat.lt_asymm hless hmore
      · exact absurd hsame (ne_of_gt hchars)

theorem natChars_lt_iff {n m : Nat} (hlength : (natChars n).length = (natChars m).length) :
    natChars n < natChars m ↔ n < m := by
  rw [natChars_eq, natChars_eq, List.length_map, List.length_map] at hlength
  rw [natChars_eq, natChars_eq,
    map_digitChar_lt_iff 0 hlength (places_lt n) (places_lt m), horner_places, horner_places]

/-! ## Integers -/

/-- How many digits an integer is written with. -/
def digitCount (v : Int) : Nat :=
  (natChars v.natAbs).length

variable {a v : Int}

theorem ofInt_lt_ofInt_iff_toList : ofInt a < ofInt v ↔ intChars a < intChars v := by
  unfold ofInt
  rw [String.lt_iff_toList_lt, String.toList_ofList, String.toList_ofList]

/-- A sign comes before every digit. -/
theorem ofInt_lt_of_neg (ha : a < 0) (hv : 0 ≤ v) : ofInt a < ofInt v := by
  have hsign : ∀ d < 10, '-' < digitChar d := by decide
  rw [ofInt_lt_ofInt_iff_toList, intChars, if_pos ha, intChars, if_neg (Int.not_lt.2 hv)]
  obtain ⟨d, rest, hd, hcs⟩ := natChars_eq_cons v.natAbs
  rw [hcs]
  exact List.cons_lt_cons_iff.2 (.inl (hsign d hd))

/-- Without signs, equally many digits are in the order of the integers. -/
theorem ofInt_lt_ofInt_iff_of_nonneg (ha : 0 ≤ a) (hv : 0 ≤ v)
    (hcount : digitCount a = digitCount v) : ofInt a < ofInt v ↔ a < v := by
  rw [ofInt_lt_ofInt_iff_toList, intChars, if_neg (Int.not_lt.2 ha), intChars,
    if_neg (Int.not_lt.2 hv), natChars_lt_iff hcount]
  omega

/-- A sign on one side, or equally many digits and no sign, put the texts in
    the order of the integers. -/
theorem ofInt_lt_ofInt_iff
    (h : (a < 0 ↔ 0 ≤ v) ∨ (0 ≤ a ∧ 0 ≤ v ∧ digitCount a = digitCount v)) :
    ofInt a < ofInt v ↔ a < v := by
  rcases h with hsign | ⟨ha, hv, hcount⟩
  · by_cases hneg : a < 0
    · have hv : 0 ≤ v := hsign.1 hneg
      exact iff_of_true (ofInt_lt_of_neg hneg hv) (lt_of_lt_of_le hneg hv)
    · have hv : v < 0 := Int.not_le.1 fun hv => hneg (hsign.2 hv)
      have hmore := ofInt_lt_of_neg hv (Int.not_lt.1 hneg)
      exact iff_of_false (lt_asymm hmore) (by omega)
  · exact ofInt_lt_ofInt_iff_of_nonneg ha hv hcount

/-- With signs, the order is the other way round. -/
theorem ofInt_lt_ofInt_iff_of_neg (ha : a < 0) (hv : v < 0)
    (hcount : digitCount a = digitCount v) : ofInt a < ofInt v ↔ v < a := by
  rw [ofInt_lt_ofInt_iff_toList, intChars, if_pos ha, intChars, if_pos hv,
    List.cons_lt_cons_iff, natChars_lt_iff hcount]
  simp only [lt_irrefl, true_and, false_or]
  omega

end Decimal

end PoolWatch.Text
