import Mathlib.Data.List.TakeWhile
import Mathlib.Data.Nat.Log
import PoolWatch.Proofs.Text.Decimal
import PoolWatch.Trade.Cell

/-! # Integers as numeric texts

    The decimal text of an integer is a numeral, and a numeric column takes
    it for a number.  An integer of 64 signed bits is taken for itself
    (`ofText?_ofInt_of_lt`).  One that needs the sixty-fourth bit for its
    magnitude is rounded to a binary64, and still lies past every integer of
    64 signed bits (`ofText?_ofInt_of_le`).

    So a number of 64 signed bits stands to what such a text is taken for as
    it stands to the integer itself (`compare_ofText?`). -/

namespace PoolWatch

/-! ## Digits -/

namespace Trade.Numeral

open Text.Decimal (natChars places digitChar)
open Text (horner)

theorem valueOf_natChars (n : Nat) : valueOf (natChars n) = n := by
  rw [valueOf, Text.Decimal.natOfChars?_natChars]
  rfl

theorem valueOf_digitChar {d : Nat} (h : d < 10) : valueOf [digitChar d] = d := by
  have hall : ∀ d < 10, valueOf [digitChar d] = d := by decide
  exact hall d h

/-- Digits are taken for as long as their value keeps below ten times the
    limit of a significand. -/
theorem absorb_append (acc taken : Nat) {ds : List Nat} (rest : List Char)
    (hdigits : ∀ d ∈ ds, d < 10) (hlt : horner 10 acc ds < 10 * digitLimit) :
    absorb acc taken (ds.map digitChar ++ rest) =
      absorb (horner 10 acc ds) (taken + ds.length) rest := by
  induction ds generalizing acc taken with
  | nil => rfl
  | cons d ds ih =>
    have hd : d < 10 := hdigits d (List.mem_cons_self ..)
    have hmore : acc * 10 + d = 10 * acc + d := by rw [Nat.mul_comm]
    -- the running value never passes the whole one
    have hstep : 10 * acc + d ≤ horner 10 (10 * acc + d) ds := Text.le_horner (by decide) _ ds
    have htakes : acc < digitLimit := by
      have hwhole : horner 10 (10 * acc + d) ds < 10 * digitLimit := hlt
      omega
    rw [List.map_cons, List.cons_append, absorb, if_pos htakes, valueOf_digitChar hd, hmore,
      ih _ _ (fun e he => hdigits e (List.mem_cons_of_mem d he)) hlt, List.length_cons]
    congr 1
    omega

theorem absorb_natChars {n : Nat} (h : n < 10 * digitLimit) :
    absorb 0 0 (natChars n) = (n, (natChars n).length) := by
  have hvalue := Text.Decimal.horner_places n
  have habsorb := absorb_append 0 0 [] (Text.Decimal.places_lt n) (by rw [hvalue]; exact h)
  rw [List.append_nil, hvalue] at habsorb
  rw [Text.Decimal.natChars_eq, habsorb, List.length_map, Nat.zero_add]
  rfl

/-- The last digit of a number is left over when the ones before it fill the
    significand. -/
theorem absorb_natChars_of_le {n : Nat} (hlow : 10 * digitLimit ≤ n) (hhigh : n < 2 ^ 64) :
    absorb 0 0 (natChars n) = (n / 10, (natChars n).length - 1) := by
  have hfront : n / 10 < 10 * digitLimit := by
    unfold digitLimit
    omega
  have hfull : ¬ n / 10 < digitLimit := by
    unfold digitLimit at hlow ⊢
    omega
  have hten : n / 10 ≠ 0 := by
    unfold digitLimit at hlow
    omega
  -- the digits in front are all taken, and after them there is no room
  have hplaces : places n = places (n / 10) ++ [n % 10] := by
    have hpos : 0 < n := by omega
    unfold places
    rw [if_neg (Nat.ne_of_gt hpos), if_neg hten, Nat.digits_def' (by decide) hpos,
      List.reverse_cons]
  have hvalue := Text.Decimal.horner_places (n / 10)
  have habsorb := absorb_append 0 0 [digitChar (n % 10)]
    (Text.Decimal.places_lt (n / 10)) (by rw [hvalue]; exact hfront)
  rw [hvalue] at habsorb
  rw [Text.Decimal.natChars_eq, hplaces, List.map_append, List.map_singleton, habsorb, absorb,
    if_neg hfull, List.length_append, List.length_map]
  simp

theorem ofChars?_natChars (n : Nat) :
    ofChars? (natChars n) =
      some ⟨(absorb 0 0 (natChars n)).1,
        ((natChars n).length - (absorb 0 0 (natChars n)).2 : Nat), true, n⟩ := by
  have hdigits : ∀ c ∈ natChars n, Text.isDigit c = true :=
    Text.Decimal.forall_mem_natChars n (by decide)
  have htake : (natChars n).takeWhile Text.isDigit = natChars n :=
    List.takeWhile_eq_self_iff.2 hdigits
  have hdrop : (natChars n).dropWhile Text.isDigit = [] := List.dropWhile_eq_nil_iff.2 hdigits
  have hsome : (natChars n).isEmpty = false :=
    List.isEmpty_eq_false_iff.2 (Text.Decimal.natChars_ne_nil n)
  unfold ofChars?
  simp only [htake, hdrop, hsome, valueOf_natChars, absorb, Bool.false_and]
  simp

end Trade.Numeral

/-! ## Magnitudes that need the sixty-fourth bit -/

/-- A binary64 that is an integer, and no less than another. -/
def Binary64.IsWholeFrom (x : Binary64) (least : Nat) : Prop :=
  ∃ m : Nat, x.quotient = (m, 1) ∧ least ≤ m

namespace Binary64

theorem le_roundDiv (num den : Nat) : num / den ≤ roundDiv num den := by
  unfold roundDiv
  dsimp only
  split
  · exact Nat.le_refl _
  · split
    · exact Nat.le_succ _
    · split
      · exact Nat.le_refl _
      · exact Nat.le_succ _

/-- Rounding does not take a number below its top bit. -/
theorem round?_of_le {n : Nat} (hlow : 2 ^ 63 ≤ n) (hhigh : n < 2 ^ 64) :
    ∃ x, round? n 1 = some x ∧ x.IsWholeFrom (2 ^ 63) := by
  have hne : n ≠ 0 := by omega
  have hunder : ¬ n < 2 ^ 63 := Nat.not_lt.2 hlow
  have hlog : n.log2 = 63 := (Nat.log2_eq_iff hne).2 ⟨hlow, hhigh⟩
  have hone : Nat.log2 1 = 0 := by decide
  have hguess : -((63 : Nat) - (0 : Nat) : Int) = -63 := by decide
  have hplace : max (((63 : Nat) : Int) - (0 : Nat) - 52) (-1074) = 11 := by decide
  have htop : scale n 1 (-63) = (n, 2 ^ 63) := by simp [scale]
  have hlast : scale n 1 (-11) = (n, 2 ^ 11) := by simp [scale]
  have hm : 2 ^ 52 ≤ roundDiv n (2 ^ 11) := by
    have hle := le_roundDiv n (2 ^ 11)
    omega
  unfold round?
  simp only [if_neg hne, hlog, hone, hguess, htop, if_neg hunder, hplace, hlast]
  generalize roundDiv n (2 ^ 11) = m at hm
  by_cases hcarry : m = 0x20000000000000
  · -- the carry runs through all bits, and the next place takes it
    subst hcarry
    exact ⟨⟨2 ^ 52, 12⟩, rfl, 2 ^ 64, rfl, by decide⟩
  · simp only [if_neg hcarry]
    exact ⟨⟨m, 11⟩, rfl, m * 2 ^ 11, rfl, by omega⟩

end Binary64

namespace Trade.Numeral

/-- A significand that takes no more digits is scaled as it is. -/
theorem toBinary64?_of_full {n : Numeral} (hfull : digitLimit ≤ n.significand)
    (hpower : 0 < n.power) :
    n.toBinary64? = ((⟨n.significand, 0⟩ : Binary80).scaleTen n.power).toBinary64? := by
  have hne : n.significand ≠ 0 := by
    unfold digitLimit at hfull
    omega
  have hmore : ¬ (0 < n.power ∧ n.significand < digitLimit) := fun h => Nat.not_lt.2 hfull h.2
  have hless : ¬ (n.power < 0 ∧ n.significand % 10 = 0) := by omega
  have hbalance : balance maxDigits n.significand n.power = (n.significand, n.power) := by
    rw [maxDigits, balance, if_neg hmore, if_neg hless]
  unfold toBinary64?
  rw [if_neg hne, hbalance]
  exact if_neg (Int.ne_of_gt hpower)

/-- What digits that need the sixty-fourth bit are rounded to. -/
theorem toBinary64?_of_le {n : Nat} (hlow : 2 ^ 63 ≤ n) (hhigh : n < 2 ^ 64) :
    ∃ numeral x, ofChars? (Text.Decimal.natChars n) = some numeral ∧ numeral.plain = true ∧
      numeral.digits = n ∧ numeral.toBinary64? = some x ∧ x.IsWholeFrom (2 ^ 63) := by
  by_cases hfits : n < 10 * digitLimit
  · obtain ⟨x, hround, hx⟩ := Binary64.round?_of_le hlow hhigh
    refine ⟨_, x, ofChars?_natChars n, rfl, rfl, ?_, hx⟩
    have hne : n ≠ 0 := by omega
    rw [absorb_natChars hfits, Nat.sub_self, toBinary64?, if_neg hne, ← hround]
    rfl
  · have hlength : 1 ≤ (Text.Decimal.natChars n).length :=
      List.length_pos_iff.2 (Text.Decimal.natChars_ne_nil n)
    have hfull : digitLimit ≤ n / 10 := by omega
    refine ⟨_, ⟨2 ^ 52, 12⟩, ofChars?_natChars n, rfl, rfl, ?_, 2 ^ 64, rfl, by decide⟩
    rw [absorb_natChars_of_le (Nat.not_lt.1 hfits) hhigh, Nat.sub_sub_self hlength, Nat.cast_one,
      toBinary64?_of_full hfull Int.one_pos]
    -- the last digit counts for its place alone, so only two significands are left
    have htwo : ∀ s ∈ [1844674407370955160, 1844674407370955161],
        ((⟨s, 0⟩ : Binary80).scaleTen 1).toBinary64? = some ⟨2 ^ 52, 12⟩ := by decide +kernel
    have hmem : n / 10 ∈ [1844674407370955160, 1844674407370955161] := by
      unfold digitLimit at hfull
      simp only [List.mem_cons, List.not_mem_nil, or_false]
      omega
    exact htwo _ hmem

end Trade.Numeral

/-! ## Texts of integers -/

namespace CellNumber

theorem isSpace_of_mem_intChars (v : Int) : ∀ c ∈ Text.Decimal.intChars v, isSpace c = false := by
  have hdigits : ∀ c ∈ Text.Decimal.natChars v.natAbs, isSpace c = false :=
    Text.Decimal.forall_mem_natChars v.natAbs (by decide)
  unfold Text.Decimal.intChars
  split
  · exact List.forall_mem_cons.2 ⟨by decide, hdigits⟩
  · exact hdigits

theorem strip_eq_self {cs : List Char} (h : ∀ c ∈ cs, isSpace c = false) : strip cs = cs := by
  have hkeeps : ∀ ds : List Char, (∀ c ∈ ds, isSpace c = false) → ds.dropWhile isSpace = ds := by
    intro ds hds
    cases ds with
    | nil => rfl
    | cons d ds => rw [List.dropWhile_cons, hds d (List.mem_cons_self ..)]; simp
  unfold strip
  rw [hkeeps cs h, hkeeps cs.reverse fun c hc => h c (List.mem_reverse.1 hc), List.reverse_reverse]

/-- The text of an integer is its sign and a numeral. -/
theorem ofText?_ofInt (v : Int) :
    ofText? (Text.Decimal.ofInt v) =
      ofMagnitude? (decide (v < 0)) (Text.Decimal.natChars v.natAbs) := by
  unfold ofText? Text.Decimal.ofInt
  rw [String.toList_ofList, strip_eq_self (isSpace_of_mem_intChars v)]
  unfold Text.Decimal.intChars
  by_cases hneg : v < 0
  · rw [if_pos hneg, decide_eq_true hneg]
    rfl
  · rw [if_neg hneg, decide_eq_false hneg]
    -- the first character is a digit, and a digit is no sign
    obtain ⟨d, rest, hd, hcs⟩ := Text.Decimal.natChars_eq_cons v.natAbs
    obtain ⟨hplus, hminus⟩ := Text.Decimal.digitChar_ne_sign hd
    rw [hcs]
    split
    · next heq => exact absurd (List.head_eq_of_cons_eq heq) hminus
    · next heq => exact absurd (List.head_eq_of_cons_eq heq) hplus
    · rfl

/-- A text of an integer of 64 signed bits is taken for the integer. -/
theorem ofText?_ofInt_of_lt {v : Int} (hlow : -(2 ^ 63) ≤ v) (hhigh : v < 2 ^ 63) :
    ofText? (Text.Decimal.ofInt v) = some (.whole v) := by
  have hvalue : (if decide (v < 0) = true then -(v.natAbs : Int) else v.natAbs) = v := by
    by_cases hneg : v < 0
    · rw [if_pos (decide_eq_true hneg)]
      omega
    · rw [if_neg (by simpa using hneg)]
      omega
  have hle : minWhole ≤ v := by
    unfold minWhole
    omega
  have hge : v ≤ maxWhole := by
    unfold maxWhole
    omega
  rw [ofText?_ofInt]
  unfold ofMagnitude?
  rw [Trade.Numeral.ofChars?_natChars, Option.map_some]
  simp only [hvalue, decide_eq_true hle, decide_eq_true hge, Bool.and_self, if_true]

/-- A text of a larger one is taken for a number past all of those. -/
theorem ofText?_ofInt_of_le {v : Int} (hlow : 2 ^ 63 ≤ v) (hhigh : v < 2 ^ 64) :
    ∃ x : Binary64, ofText? (Text.Decimal.ofInt v) = some (.binary false x) ∧
      x.IsWholeFrom (2 ^ 63) := by
  obtain ⟨numeral, x, hread, hplain, hdigits, hround, hx⟩ :=
    Trade.Numeral.toBinary64?_of_le (n := v.natAbs) (by omega) (by omega)
  have hneg : ¬ v < 0 := by omega
  -- it is written as an integer and does not fit one
  have hpast : ¬ (numeral.digits : Int) ≤ maxWhole := by
    rw [hdigits]
    unfold maxWhole
    omega
  refine ⟨x, ?_, hx⟩
  rw [ofText?_ofInt, decide_eq_false hneg]
  unfold ofMagnitude?
  rw [hread, Option.map_some]
  simp only [Bool.false_eq_true, if_false, decide_eq_false hpast, Bool.and_false, hround]

/-! ## Comparing -/

theorem compare_whole (n v : Int) : compare (.whole n) (.whole v) = Ord.compare n v := by
  show Ord.compare (n * (1 : Nat)) (v * (1 : Nat)) = _
  simp

theorem compare_of_lt {n : Int} {x : Binary64} {least : Nat} (hx : x.IsWholeFrom least)
    (hlt : n < least) : compare (.whole n) (.binary false x) = .lt := by
  obtain ⟨m, hm, hle⟩ := hx
  have hless : n * (1 : Nat) < m * (1 : Nat) := by omega
  unfold compare
  simp only [quotient?, hm]
  exact compare_lt_iff_lt.2 hless

/-- A number stands to what a text of an integer is taken for as it stands to
    the integer, if either has 64 signed bits. -/
theorem compare_ofText? {n v : Int} (hlow : -(2 ^ 63) ≤ v) (hhigh : v < 2 ^ 64)
    (hfits : v < 2 ^ 63 ∨ n < 2 ^ 63) :
    ∃ b, ofText? (Text.Decimal.ofInt v) = some b ∧ compare (.whole n) b = Ord.compare n v := by
  by_cases hwhole : v < 2 ^ 63
  · exact ⟨.whole v, ofText?_ofInt_of_lt hlow hwhole, compare_whole n v⟩
  · have hn : n < 2 ^ 63 := hfits.resolve_left hwhole
    have hless : n < v := by omega
    obtain ⟨x, hread, hx⟩ := ofText?_ofInt_of_le (Int.not_lt.1 hwhole) hhigh
    exact ⟨_, hread, (compare_of_lt hx hn).trans (compare_lt_iff_lt.2 hless).symm⟩

end CellNumber

end PoolWatch
