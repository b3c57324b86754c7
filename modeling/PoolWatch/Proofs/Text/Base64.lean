import Mathlib.Data.List.Basic
import PoolWatch.Text.Base64

/-! # Base 64 is exact

    The texts that are read are the texts that are written: reading undoes
    writing, and a text that reads as some bytes is their text.  So a text is
    never read in part, and no two texts read alike. -/

namespace PoolWatch.Text.Base64

/-! ## Digits -/

theorem value?_digit {d : Nat} (h : d < 64) : value? (digit d) = some d := by
  have hall : ∀ d < 64, value? (digit d) = some d := by decide +kernel
  exact hall d h

theorem digit_ne_pad {d : Nat} (h : d < 64) : digit d ≠ '=' := by
  have hall : ∀ d < 64, digit d ≠ '=' := by decide +kernel
  exact hall d h

theorem value?_eq_some {c : Char} {d : Nat} (h : value? c = some d) : d < 64 ∧ digit d = c := by
  obtain ⟨hd, hc, -⟩ := List.idxOf?_eq_some_iff.1 h
  refine ⟨hd, ?_⟩
  unfold digit
  rw [List.getD_eq_getElem?_getD, List.getElem?_eq_getElem hd]
  exact hc

/-- A byte is what its bits write. -/
theorem ofNat_eq {n : Nat} {b : UInt8} (h : n = b.toNat) : UInt8.ofNat n = b := by
  rw [h, UInt8.ofNat_toNat]

theorem toNat_ofNat_of_lt {n : Nat} (h : n < 256) : (UInt8.ofNat n).toNat = n := by
  rw [UInt8.toNat_ofNat', Nat.mod_eq_of_lt h]

/-! ## Reading what was written -/

theorem decodeChars?_encodeChars (bytes : Bytes) :
    decodeChars? (encodeChars bytes) = some bytes := by
  fun_induction encodeChars bytes with
  | case1 => rfl
  | case2 a =>
    have ha := a.toNat_lt
    have hp : a.toNat / 4 < 64 := by omega
    have hq : a.toNat % 4 * 16 < 64 := by omega
    have hspare : a.toNat % 4 * 16 % 16 = 0 := by omega
    have hbyte : UInt8.ofNat (a.toNat / 4 * 4 + a.toNat % 4 * 16 / 16) = a :=
      ofNat_eq (by omega)
    simp only [decodeChars?, value?_digit hp, value?_digit hq, hspare, hbyte,
      Option.bind_eq_bind, Option.bind_some, if_true, Option.pure_def]
  | case3 a b =>
    have ha := a.toNat_lt
    have hb := b.toNat_lt
    have hp : a.toNat / 4 < 64 := by omega
    have hq : a.toNat % 4 * 16 + b.toNat / 16 < 64 := by omega
    have hr : b.toNat % 16 * 4 < 64 := by omega
    have hspare : b.toNat % 16 * 4 % 4 = 0 := by omega
    have hfirst : UInt8.ofNat (a.toNat / 4 * 4 + (a.toNat % 4 * 16 + b.toNat / 16) / 16) = a :=
      ofNat_eq (by omega)
    have hsecond : UInt8.ofNat
        ((a.toNat % 4 * 16 + b.toNat / 16) % 16 * 16 + b.toNat % 16 * 4 / 4) = b :=
      ofNat_eq (by omega)
    -- the third digit is no pad, so this is the longer of the two last groups
    rw [decodeChars?.eq_3 _ _ _ (digit_ne_pad hr)]
    simp only [value?_digit hp, value?_digit hq, value?_digit hr, hspare, hfirst, hsecond,
      Option.bind_eq_bind, Option.bind_some, if_true, Option.pure_def]
  | case4 a b c rest ih =>
    have ha := a.toNat_lt
    have hb := b.toNat_lt
    have hc := c.toNat_lt
    have hp : a.toNat / 4 < 64 := by omega
    have hq : a.toNat % 4 * 16 + b.toNat / 16 < 64 := by omega
    have hr : b.toNat % 16 * 4 + c.toNat / 64 < 64 := by omega
    have hs : c.toNat % 64 < 64 := by omega
    have hfirst : UInt8.ofNat (a.toNat / 4 * 4 + (a.toNat % 4 * 16 + b.toNat / 16) / 16) = a :=
      ofNat_eq (by omega)
    have hsecond : UInt8.ofNat ((a.toNat % 4 * 16 + b.toNat / 16) % 16 * 16 +
        (b.toNat % 16 * 4 + c.toNat / 64) / 4) = b :=
      ofNat_eq (by omega)
    have hthird : UInt8.ofNat
        ((b.toNat % 16 * 4 + c.toNat / 64) % 4 * 64 + c.toNat % 64) = c :=
      ofNat_eq (by omega)
    have hpad := digit_ne_pad hs
    rw [decodeChars?.eq_4 _ _ _ _ _ (fun _ h _ => hpad h) (fun h _ => hpad h), ih]
    simp only [value?_digit hp, value?_digit hq, value?_digit hr, value?_digit hs, hfirst,
      hsecond, hthird, Option.bind_eq_bind, Option.bind_some, Option.pure_def]

/-- A text that is read is the one that would be written. -/
theorem eq_encodeChars_of_decodeChars? {text : List Char} {bytes : Bytes}
    (h : decodeChars? text = some bytes) : text = encodeChars bytes := by
  fun_induction decodeChars? text generalizing bytes with
  | case1 =>
    cases h
    rfl
  | case2 p' q' =>
    obtain ⟨p, hp, h₁⟩ := Option.bind_eq_some_iff.1 h
    obtain ⟨q, hq, h₂⟩ := Option.bind_eq_some_iff.1 h₁
    obtain ⟨hplt, rfl⟩ := value?_eq_some hp
    obtain ⟨hqlt, rfl⟩ := value?_eq_some hq
    split at h₂
    · cases h₂
      have ha := toNat_ofNat_of_lt (n := p * 4 + q / 16) (by omega)
      have hfirst : (p * 4 + q / 16) / 4 = p := by omega
      have hsecond : (p * 4 + q / 16) % 4 * 16 = q := by omega
      rw [encodeChars, ha, hfirst, hsecond]
    · cases h₂
  | case3 p' q' r' =>
    obtain ⟨p, hp, h₁⟩ := Option.bind_eq_some_iff.1 h
    obtain ⟨q, hq, h₂⟩ := Option.bind_eq_some_iff.1 h₁
    obtain ⟨r, hr, h₃⟩ := Option.bind_eq_some_iff.1 h₂
    obtain ⟨hplt, rfl⟩ := value?_eq_some hp
    obtain ⟨hqlt, rfl⟩ := value?_eq_some hq
    obtain ⟨hrlt, rfl⟩ := value?_eq_some hr
    split at h₃
    · cases h₃
      have ha := toNat_ofNat_of_lt (n := p * 4 + q / 16) (by omega)
      have hb := toNat_ofNat_of_lt (n := q % 16 * 16 + r / 4) (by omega)
      have hfirst : (p * 4 + q / 16) / 4 = p := by omega
      have hsecond : (p * 4 + q / 16) % 4 * 16 + (q % 16 * 16 + r / 4) / 16 = q := by omega
      have hthird : (q % 16 * 16 + r / 4) % 16 * 4 = r := by omega
      rw [encodeChars, ha, hb, hfirst, hsecond, hthird]
    · cases h₃
  | case4 p' q' r' s' rest _ _ ih =>
    obtain ⟨p, hp, h₁⟩ := Option.bind_eq_some_iff.1 h
    obtain ⟨q, hq, h₂⟩ := Option.bind_eq_some_iff.1 h₁
    obtain ⟨r, hr, h₃⟩ := Option.bind_eq_some_iff.1 h₂
    obtain ⟨s, hs, h₄⟩ := Option.bind_eq_some_iff.1 h₃
    obtain ⟨tail, htail, h₅⟩ := Option.bind_eq_some_iff.1 h₄
    obtain ⟨hplt, rfl⟩ := value?_eq_some hp
    obtain ⟨hqlt, rfl⟩ := value?_eq_some hq
    obtain ⟨hrlt, rfl⟩ := value?_eq_some hr
    obtain ⟨hslt, rfl⟩ := value?_eq_some hs
    cases h₅
    have ha := toNat_ofNat_of_lt (n := p * 4 + q / 16) (by omega)
    have hb := toNat_ofNat_of_lt (n := q % 16 * 16 + r / 4) (by omega)
    have hc := toNat_ofNat_of_lt (n := r % 4 * 64 + s) (by omega)
    have hfirst : (p * 4 + q / 16) / 4 = p := by omega
    have hsecond : (p * 4 + q / 16) % 4 * 16 + (q % 16 * 16 + r / 4) / 16 = q := by omega
    have hthird : (q % 16 * 16 + r / 4) % 16 * 4 + (r % 4 * 64 + s) / 64 = r := by omega
    have hfourth : (r % 4 * 64 + s) % 64 = s := by omega
    rw [encodeChars, ha, hb, hc, hfirst, hsecond, hthird, hfourth, ← ih htail]
  | case5 => cases h

/-- The texts that are read are the texts of byte strings. -/
theorem decode?_eq_some_iff {text : String} {bytes : Bytes} :
    decode? text = some bytes ↔ text = encode bytes := by
  unfold decode? encode
  constructor
  · intro h
    rw [← eq_encodeChars_of_decodeChars? h, String.ofList_toList]
  · rintro rfl
    rw [String.toList_ofList, decodeChars?_encodeChars]

end PoolWatch.Text.Base64
