import Mathlib
import PoolWatch.Text.Blank

/-! # Trimmed texts and letter case

    What trimming leaves of a text is the one part that stands between
    blanks and neither begins nor ends with one.  Making a text small gives a
    word of small letters exactly if the text spells this word, each letter
    small or capital. -/

namespace PoolWatch.Text

/-! ## Blanks at the ends -/

/-- A part of a text with nothing but blanks around it. -/
def Surrounds (text part : List Char) : Prop :=
  ∃ front back, text = front ++ part ++ back ∧ (∀ c ∈ front, isBlank c) ∧ ∀ c ∈ back, isBlank c

/-- A text whose ends are not blank. -/
structure IsTrimmed (part : List Char) : Prop where
  head : ∀ c, part.head? = some c → isBlank c = false
  last : ∀ c, part.getLast? = some c → isBlank c = false

variable {text part front rest : List Char}

theorem trimChars_eq (text : List Char) :
    trimChars text = (text.dropWhile isBlank).rdropWhile isBlank := rfl

/-- The blanks in front end where the first other character stands. -/
theorem dropWhile_isBlank (hfront : ∀ c ∈ front, isBlank c)
    (hrest : ∀ c, rest.head? = some c → isBlank c = false) :
    (front ++ rest).dropWhile isBlank = rest := by
  rw [List.dropWhile_append_of_pos hfront]
  cases rest with
  | nil => rfl
  | cons c rest => exact List.dropWhile_cons_of_neg (by simp [hrest c rfl])

theorem head?_dropWhile_isBlank (text : List Char) :
    ∀ c, (text.dropWhile isBlank).head? = some c → isBlank c = false := by
  intro c hc
  have hhead := List.head?_dropWhile_not isBlank text
  rwa [hc] at hhead

theorem surrounds_trimChars (text : List Char) : Surrounds text (trimChars text) := by
  have hfront := List.takeWhile_append_dropWhile (p := isBlank) (l := text)
  have hback := List.rdropWhile_append_rtakeWhile (p := isBlank) (l := text.dropWhile isBlank)
  refine ⟨text.takeWhile isBlank, (text.dropWhile isBlank).rtakeWhile isBlank, ?_, ?_, ?_⟩
  · rw [List.append_assoc, trimChars_eq, hback, hfront]
  · intro c hc
    exact List.mem_takeWhile_imp hc
  · intro c hc
    exact List.mem_rtakeWhile_imp hc

theorem isTrimmed_trimChars (text : List Char) : IsTrimmed (trimChars text) := by
  rw [trimChars_eq]
  constructor
  · intro c hc
    -- taking blanks from the end does not change what is in front
    obtain ⟨back, hback⟩ := List.rdropWhile_prefix isBlank (text.dropWhile isBlank)
    apply head?_dropWhile_isBlank text
    rw [← hback, List.head?_append, hc, Option.some_or]
  · intro c hc
    rw [List.rdropWhile, List.getLast?_reverse] at hc
    exact head?_dropWhile_isBlank _ c hc

/-- Trimming finds the one part there is between the blanks. -/
theorem trimChars_eq_iff : trimChars text = part ↔ Surrounds text part ∧ IsTrimmed part := by
  constructor
  · rintro rfl
    exact ⟨surrounds_trimChars text, isTrimmed_trimChars text⟩
  · rintro ⟨⟨front, back, rfl, hfront, hback⟩, htrimmed⟩
    rw [trimChars_eq]
    cases hpart : part with
    | nil =>
      have hall : ∀ c ∈ front ++ [] ++ back, isBlank c := by
        intro c hc
        rw [List.append_nil, List.mem_append] at hc
        exact hc.elim (hfront c) (hback c)
      rw [List.dropWhile_eq_nil_iff.2 hall]
      rfl
    | cons first more =>
      have hhead : ∀ c, (part ++ back).head? = some c → isBlank c = false := by
        intro c hc
        apply htrimmed.head c
        rw [hpart] at hc ⊢
        exact hc
      have hlast : ∀ c, part.reverse.head? = some c → isBlank c = false := by
        intro c hc
        rw [List.head?_reverse] at hc
        exact htrimmed.last c hc
      have hback' : ∀ c ∈ back.reverse, isBlank c := fun c hc => hback c (List.mem_reverse.1 hc)
      rw [← hpart, List.append_assoc, dropWhile_isBlank hfront hhead, List.rdropWhile,
        List.reverse_append, dropWhile_isBlank hback' hlast, List.reverse_reverse]

theorem trimChars_eq_nil_iff : trimChars text = [] ↔ ∀ c ∈ text, isBlank c := by
  rw [trimChars_eq_iff]
  constructor
  · rintro ⟨⟨front, back, rfl, hfront, hback⟩, -⟩ c hc
    rw [List.append_nil, List.mem_append] at hc
    exact hc.elim (hfront c) (hback c)
  · intro h
    exact ⟨⟨text, [], by simp, h, nofun⟩, ⟨nofun, nofun⟩⟩

/-! ## Letter case -/

/-- A text that writes a word of small letters, each of them small or capital. -/
def Spells (word text : List Char) : Prop :=
  List.Forall₂ (fun d c => c = d ∨ c = d.toUpper) word text

theorem lowerChar_eq_toLower (c : Char) : lowerChar c = c.toLower := by
  have hcapital : ('A' ≤ c ∧ c ≤ 'Z') ↔ c.isUpper = true := by
    simp [Char.isUpper, Char.le_def]
  unfold lowerChar
  by_cases h : c.isUpper = true
  · rw [if_pos (hcapital.2 h), Char.toLower_eq_of_isUpper h]
  · rw [if_neg (mt hcapital.1 h), Char.toLower_eq_of_not_isUpper h]

theorem lowerChars_eq (text : List Char) : lowerChars text = text.map Char.toLower := by
  unfold lowerChars
  apply List.map_congr_left
  intro c _
  exact lowerChar_eq_toLower c

theorem toLower_eq_iff {c d : Char} (hd : d.isLower = true) :
    c.toLower = d ↔ c = d ∨ c = d.toUpper := by
  have hsmall : d.toLower = d :=
    Char.toLower_eq_of_not_isUpper (fun h => Char.not_isLower_of_isUpper h hd)
  constructor
  · intro h
    by_cases hc : c.isUpper = true
    · right
      rw [← h, Char.toUpper_toLower_eq_toUpper,
        Char.toUpper_eq_of_not_isLower (Char.not_isLower_of_isUpper hc)]
    · left
      rwa [Char.toLower_eq_of_not_isUpper hc] at h
  · rintro (rfl | rfl)
    · exact hsmall
    · rw [Char.toLower_toUpper_eq_toLower, hsmall]

/-- A word of small letters is what a text comes to that spells it. -/
theorem lowerChars_eq_iff {word : List Char} (hword : ∀ d ∈ word, d.isLower = true) :
    lowerChars text = word ↔ Spells word text := by
  rw [lowerChars_eq]
  unfold Spells
  induction word generalizing text with
  | nil => simp
  | cons d word ih =>
    obtain ⟨hd, hmore⟩ := List.forall_mem_cons.1 hword
    cases text with
    | nil => simp
    | cons c text =>
      rw [List.map_cons, List.cons.injEq, List.forall₂_cons, toLower_eq_iff hd, ih hmore]

theorem isBlank_of_isAlpha {c : Char} (h : c.isAlpha = true) : isBlank c = false := by
  simp only [Char.isAlpha, Char.isUpper, Char.isLower, UInt32.le_iff_toNat_le, ge_iff_le,
    Bool.or_eq_true, Bool.and_eq_true, decide_eq_true_eq, Char.reduceVal, UInt32.reduceToNat,
    Char.toNat_val] at h
  unfold isBlank
  simp only [Bool.or_eq_false_iff, Bool.and_eq_false_iff, decide_eq_false_iff_not,
    beq_eq_false_iff_ne]
  omega

/-- A text that spells a word is made of letters. -/
theorem Spells.isAlpha {word : List Char} (h : Spells word text)
    (hword : ∀ d ∈ word, d.isLower = true) : ∀ c ∈ text, c.isAlpha = true := by
  unfold Spells at h
  induction h with
  | nil => exact nofun
  | cons hfirst _ ih =>
    obtain ⟨hd, hmore⟩ := List.forall_mem_cons.1 hword
    apply List.forall_mem_cons.2 ⟨?_, ih hmore⟩
    rcases hfirst with rfl | rfl
    · simp [Char.isAlpha, hd]
    · simp [Char.isAlpha, hd]

end PoolWatch.Text
