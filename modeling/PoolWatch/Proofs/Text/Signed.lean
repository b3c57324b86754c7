import PoolWatch.Proofs.Run
import PoolWatch.Proofs.Text.Decimal

/-! # Which texts are integers

    An integer is written by digits, at least one, after a sign or without
    one.  The reader of a signed width takes exactly the texts that write an
    integer of the width, and reads that integer (`readSigned_eq_ok_iff`). -/

namespace PoolWatch.Text.Decimal

/-- A text writes an integer.  The digits are given by their values, most
    significant first; zeros in front of them make no difference. -/
inductive Writes : List Char → Int → Prop where
  | plain (ds : List Nat) (hne : ds ≠ []) (hdigits : ∀ d ∈ ds, d < 10) :
      Writes (ds.map digitChar) (horner 10 0 ds)
  | plus (ds : List Nat) (hne : ds ≠ []) (hdigits : ∀ d ∈ ds, d < 10) :
      Writes ('+' :: ds.map digitChar) (horner 10 0 ds)
  | minus (ds : List Nat) (hne : ds ≠ []) (hdigits : ∀ d ∈ ds, d < 10) :
      Writes ('-' :: ds.map digitChar) (-(horner 10 0 ds : Int))

theorem eq_digitChar_of_digitValue? {c : Char} {d : Nat} (h : digitValue? c = some d) :
    d < 10 ∧ c = digitChar d := by
  unfold digitValue? at h
  split at h
  · next hrange =>
    have hlow : 48 ≤ c.toNat := hrange.1
    have hhigh : c.toNat ≤ 57 := hrange.2
    obtain rfl := Option.some.inj h
    refine ⟨by omega, ?_⟩
    rw [digitChar, Nat.add_sub_cancel' hlow, Char.ofNat_toNat]
  · cases h

/-- What is taken digit by digit is a run of digits whose value keeps within
    the bound. -/
theorem accumulate_eq_ok_iff {bound acc v : Nat} {overflow : Fault} {cs : List Char}
    (hacc : acc ≤ bound) :
    accumulate bound overflow acc cs = .ok v ↔
      ∃ ds : List Nat, (∀ d ∈ ds, d < 10) ∧ cs = ds.map digitChar ∧ v = horner 10 acc ds ∧
        v ≤ bound := by
  constructor
  · intro h
    induction cs generalizing acc with
    | nil =>
      obtain rfl := Except.ok.inj h
      exact ⟨[], fun _ hd => absurd hd List.not_mem_nil, rfl, rfl, hacc⟩
    | cons c rest ih =>
      rw [accumulate] at h
      split at h
      · cases h
      · next d hd =>
        obtain ⟨hlt, rfl⟩ := eq_digitChar_of_digitValue? hd
        split at h
        · cases h
        · next hstep =>
          obtain ⟨ds, hdigits, rfl, hv, hle⟩ := ih (Nat.not_lt.1 hstep) h
          exact ⟨d :: ds, List.forall_mem_cons.2 ⟨hlt, hdigits⟩, rfl, hv, hle⟩
  · rintro ⟨ds, hdigits, rfl, rfl, hle⟩
    exact accumulate_digitChars bound overflow acc ds hdigits hle

/-- A signed reader takes the texts that write an integer of its range. -/
theorem readChars_eq_ok_iff {low high : Nat} (hlow : low ≠ 0) {text : List Char} {n : Int} :
    readChars low high text = .ok n ↔ Writes text n ∧ -(low : Int) ≤ n ∧ n ≤ high := by
  constructor
  · intro h
    rw [readChars.eq_def] at h
    -- a text of signs alone has no digits, so the first three cases are no answers
    split at h
    · cases h
    · cases h
    · cases h
    · next rest hrest =>
      obtain ⟨v, hv, rfl⟩ := map_eq_ok.1 h
      obtain ⟨ds, hdigits, rfl, rfl, hle⟩ := (accumulate_eq_ok_iff (Nat.zero_le _)).1 hv
      have hne : ds ≠ [] := by
        rintro rfl
        exact hrest rfl
      refine ⟨.plus ds hne hdigits, ?_, ?_⟩ <;> simp only [Int.ofNat_eq_natCast] <;> omega
    · next rest hrest =>
      rw [if_neg hlow] at h
      obtain ⟨v, hv, rfl⟩ := map_eq_ok.1 h
      obtain ⟨ds, hdigits, rfl, rfl, hle⟩ := (accumulate_eq_ok_iff (Nat.zero_le _)).1 hv
      have hne : ds ≠ [] := by
        rintro rfl
        exact hrest rfl
      refine ⟨.minus ds hne hdigits, ?_, ?_⟩ <;> simp only [Int.ofNat_eq_natCast] <;> omega
    · next hempty _ _ _ _ =>
      obtain ⟨v, hv, rfl⟩ := map_eq_ok.1 h
      obtain ⟨ds, hdigits, rfl, rfl, hle⟩ := (accumulate_eq_ok_iff (Nat.zero_le _)).1 hv
      have hne : ds ≠ [] := by
        rintro rfl
        exact hempty rfl
      refine ⟨.plain ds hne hdigits, ?_, ?_⟩ <;> simp only [Int.ofNat_eq_natCast] <;> omega
  · rintro ⟨hwrites, hle, hge⟩
    cases hwrites with
    | plain ds hne hdigits =>
      obtain ⟨d, ds, rfl⟩ := List.exists_cons_of_ne_nil hne
      have hread := accumulate_digitChars high .tooLarge 0 (d :: ds) hdigits (by omega)
      -- the first digit is no sign
      obtain ⟨hplus, hminus⟩ := digitChar_ne_sign (hdigits d (List.mem_cons_self ..))
      rw [readChars.eq_def]
      split <;> simp_all [Except.map]
    | plus ds hne hdigits =>
      obtain ⟨d, ds, rfl⟩ := List.exists_cons_of_ne_nil hne
      have hread := accumulate_digitChars high .tooLarge 0 (d :: ds) hdigits (by omega)
      rw [List.map_cons] at hread ⊢
      simp only [readChars, hread, Except.map, Int.ofNat_eq_natCast]
    | minus ds hne hdigits =>
      obtain ⟨d, ds, rfl⟩ := List.exists_cons_of_ne_nil hne
      have hread := accumulate_digitChars low .tooSmall 0 (d :: ds) hdigits (by omega)
      rw [List.map_cons] at hread ⊢
      simp only [readChars, if_neg hlow, hread, Except.map, Int.ofNat_eq_natCast]

/-- A reader of a signed width takes the texts that write an integer of it. -/
theorem readSigned_eq_ok_iff {bits : Nat} {text : String} {n : Int} :
    readSigned bits text = .ok n ↔
      Writes text.toList n ∧ -(Nat.pow 2 (bits - 1) : Int) ≤ n ∧
        n < (Nat.pow 2 (bits - 1) : Int) := by
  have hpos : 0 < Nat.pow 2 (bits - 1) := Nat.pow_pos (by decide)
  unfold readSigned
  rw [readChars_eq_ok_iff (Nat.ne_of_gt hpos)]
  refine and_congr_right fun _ => and_congr ?_ ?_
  · simp
  · push_cast [Nat.cast_sub hpos]
    omega

end PoolWatch.Text.Decimal
