import PoolWatch.Json.Parser
import PoolWatch.Proofs.Text.Decimal

/-! # Words of a printed text

    Each piece of a compact text is cut back into the word it was printed
    from: strings through their escapes, integers through their digits, and
    punctuation as it stands.

    Cutting is bounded by the length of the text.  `Reads` says that the
    bound is never what decides, so that texts can be put together without
    counting. -/

namespace PoolWatch

namespace Json

/-! ## Strings -/

/-- The piece that a printed character is scanned as. -/
def Piece.ofChar (c : Char) : Piece :=
  if (escape c).length = 6 then .unit c.toNat else .char c

theorem hexValue?_digit {d : Nat} (h : d < 16) : Text.Hex.value? (Text.Hex.digit d) = some d := by
  have hall : ∀ d < 16, Text.Hex.value? (Text.Hex.digit d) = some d := by decide
  exact hall d h

theorem codeUnit?_low {n : Nat} (h : n < 32) :
    codeUnit? '0' '0' (Text.Hex.digit (n / 16)) (Text.Hex.digit (n % 16)) = some n := by
  have hhigh := hexValue?_digit (d := n / 16) (by omega)
  have hlow := hexValue?_digit (d := n % 16) (by omega)
  have hzero : Text.Hex.value? '0' = some 0 := by decide
  simp only [codeUnit?, hzero, hhigh, hlow, Option.bind_eq_bind, Option.bind_some, Option.pure_def]
  congr 1
  omega

/-- A character that needs no escape is scanned as it stands. -/
theorem scanString_plain {c : Char} (hquote : c ≠ '"') (hback : c ≠ '\\') (hlow : 32 ≤ c.toNat)
    (rest : List Char) :
    scanString (c :: rest) =
      (scanString rest).map fun (pieces, rest) => (.char c :: pieces, rest) := by
  have hplain : ¬ (c.toNat < 32 || c = '\\') = true := by simpa using ⟨hlow, hback⟩
  rw [scanString.eq_def]
  split
  · next heq => cases heq
  · next heq => exact absurd (List.cons.inj heq).1 hquote
  · next heq => exact absurd (List.cons.inj heq).1 hback
  · next heq => exact absurd (List.cons.inj heq).1 hback
  · next heq =>
    obtain ⟨rfl, rfl⟩ := List.cons.inj heq
    rw [if_neg hplain]
    cases scanString rest <;> rfl

/-- A printed character is scanned as one piece. -/
theorem scanString_escape (c : Char) (rest : List Char) :
    scanString (escape c ++ rest) =
      (scanString rest).map fun (pieces, rest) => (Piece.ofChar c :: pieces, rest) := by
  unfold Piece.ofChar
  fun_cases escape c
  -- the seven characters with an escape of their own
  iterate 7
    · simp only [List.cons_append, List.nil_append, scanString]
      cases scanString rest <;> rfl
  -- the other control characters, by their code
  · next hquote hback hn hr ht hb hf hlow =>
    simp only [List.cons_append, List.nil_append, scanString, codeUnit?_low hlow]
    cases scanString rest <;> rfl
  -- everything else as it is
  · next hquote hback hn hr ht hb hf hlow =>
    simp only [List.length_singleton, List.singleton_append]
    exact scanString_plain hquote hback (Nat.le_of_not_lt hlow) rest

theorem scanString_flatMap_escape (cs rest : List Char) :
    scanString (cs.flatMap escape ++ '"' :: rest) = some (cs.map Piece.ofChar, rest) := by
  induction cs with
  | nil => simp [scanString]
  | cons c cs ih =>
    rw [List.flatMap_cons, List.append_assoc, scanString_escape, ih]
    rfl

theorem toNat_lt_of_length_escape {c : Char} (h : (escape c).length = 6) : c.toNat < 32 := by
  unfold escape at h
  split at h
  iterate 7
    · simp at h
  · split at h
    · assumption
    · simp at h

/-- A code unit below the surrogates is a character by itself. -/
theorem joinPieces_unit {n : Nat} (h : n < 0xD800) (pieces : List Piece) :
    joinPieces (.unit n :: pieces) = (joinPieces pieces).map (Char.ofNat n :: ·) := by
  cases pieces with
  | nil => simp [joinPieces]; omega
  | cons p pieces =>
    cases p with
    | char c => simp [joinPieces]; omega
    | unit l =>
      have hhigh : ¬ (0xD800 ≤ n ∧ n < 0xDC00) := by omega
      have hlow : ¬ (0xDC00 ≤ n ∧ n < 0xE000) := by omega
      rw [joinPieces, if_neg hhigh, if_neg hlow]

theorem joinPieces_ofChar (cs : List Char) : joinPieces (cs.map Piece.ofChar) = some cs := by
  induction cs with
  | nil => rfl
  | cons c cs ih =>
    rw [List.map_cons, Piece.ofChar]
    split
    · next h =>
      -- only control characters are written by their code, far below the surrogates
      have hlow := toNat_lt_of_length_escape h
      rw [joinPieces_unit (by omega), ih, Char.ofNat_toNat]
      rfl
    · rw [joinPieces, ih]
      rfl

theorem scanToken_stringChars (s : String) (rest : List Char) :
    scanToken (stringChars s ++ rest) = some (.string (some s), rest) := by
  simp only [stringChars, List.cons_append, List.append_assoc, List.nil_append, scanToken,
    scanString_flatMap_escape, Option.map_some, joinPieces_ofChar, String.ofList_toList]

/-! ## Integers -/

/-- A text that a numeral in front of it does not run into. -/
def Stops (rest : List Char) : Prop :=
  ∀ c ∈ rest.head?, isDigit c = false ∧ c ≠ '.' ∧ c ≠ 'e' ∧ c ≠ 'E'

theorem stops_nil : Stops [] := by
  intro c hc
  simp at hc

theorem isDigit_digitChar : ∀ d < 10, isDigit (Text.Decimal.digitChar d) = true := by
  decide

theorem digitChar_eq_zero {d : Nat} (h : d < 10) (hc : Text.Decimal.digitChar d = '0') : d = 0 := by
  have hall : ∀ d < 10, Text.Decimal.digitChar d = '0' → d = 0 := by decide
  exact hall d h hc

theorem takeWhile_isDigit {ds rest : List Char} (hds : ∀ c ∈ ds, isDigit c = true)
    (hrest : Stops rest) :
    (ds ++ rest).takeWhile isDigit = ds ∧ (ds ++ rest).dropWhile isDigit = rest := by
  rw [List.takeWhile_append_of_pos hds, List.dropWhile_append_of_pos hds]
  cases rest with
  | nil => simp
  | cons c rest =>
    have hc : isDigit c = false := (hrest c (by simp)).1
    simp [hc]

theorem scanWhole_natChars (n : Nat) {rest : List Char} (hrest : Stops rest) :
    scanWhole (Text.Decimal.natChars n ++ rest) = some (n, rest) := by
  by_cases hn : n = 0
  · subst hn
    rfl
  · have hvalue := Text.Decimal.natOfChars?_natChars n
    obtain ⟨htake, hdrop⟩ := takeWhile_isDigit
      (Text.Decimal.forall_mem_natChars n isDigit_digitChar) hrest
    have hhead := Text.Decimal.head?_places hn
    have hmap := Text.Decimal.natChars_eq n
    cases hcs : Text.Decimal.natChars n with
    | nil => exact absurd hcs (Text.Decimal.natChars_ne_nil n)
    | cons c cs =>
      -- the first digit is not zero, so the numeral is read as a run of digits
      have hc : c ≠ '0' := by
        rintro rfl
        rw [hcs] at hmap
        cases hds : Text.Decimal.places n with
        | nil => simp [hds] at hmap
        | cons d ds =>
          rw [hds, List.map_cons, List.cons.injEq] at hmap
          have hd : d < 10 := Text.Decimal.places_lt n d (by simp [hds])
          have hzero := digitChar_eq_zero hd hmap.1.symm
          rw [hds, hzero] at hhead
          exact hhead rfl
      rw [hcs] at htake hdrop hvalue
      rw [List.cons_append] at htake hdrop ⊢
      rw [scanWhole.eq_def]
      split
      · next heq => exact absurd (List.cons.inj heq).1 hc
      · simp only [digits1?, htake, hdrop, hvalue, Option.bind_eq_bind, Option.bind_some,
          Option.pure_def]

theorem scanFraction_stops {rest : List Char} (hrest : Stops rest) :
    scanFraction rest = some (none, rest) := by
  unfold scanFraction
  split
  · next rest' => exact absurd rfl (hrest '.' (by simp)).2.1
  · rfl

theorem scanExponent_stops {rest : List Char} (hrest : Stops rest) :
    scanExponent rest = some (none, rest) := by
  unfold scanExponent
  split
  · next rest' => exact absurd rfl (hrest 'e' (by simp)).2.2.1
  · next rest' => exact absurd rfl (hrest 'E' (by simp)).2.2.2
  · rfl

theorem scanMagnitude_natChars (negative : Bool) (n : Nat) {rest : List Char}
    (hrest : Stops rest) :
    scanMagnitude negative (Text.Decimal.natChars n ++ rest) =
      some (⟨negative, n, none, none⟩, rest) := by
  simp only [scanMagnitude, scanWhole_natChars n hrest, scanFraction_stops hrest,
    scanExponent_stops hrest, Option.bind_eq_bind, Option.bind_some, Option.pure_def]

/-- The text of an integer, in front of a text it does not run into. -/
theorem scanNumeral_numeralChars {n : Numeral} (hn : n.isInteger = true) {rest : List Char}
    (hrest : Stops rest) : scanNumeral (numeralChars n ++ rest) = some (n, rest) := by
  obtain ⟨negative, whole, fraction, exponent⟩ := n
  simp only [Numeral.isInteger, Bool.and_eq_true, Option.isNone_iff_eq_none] at hn
  obtain ⟨rfl, rfl⟩ := hn
  have hmagnitude := scanMagnitude_natChars negative whole hrest
  -- a minus sign is passed over; otherwise the numeral begins with a digit
  cases negative with
  | true =>
    simp only [numeralChars, if_true, List.append_nil, List.cons_append, List.nil_append,
      scanNumeral]
    exact hmagnitude
  | false =>
    simp only [numeralChars, Bool.false_eq_true, if_false, List.append_nil, List.nil_append]
    obtain ⟨d, cs, hd, hcs⟩ := Text.Decimal.natChars_eq_cons whole
    have hc := isDigit_digitChar d hd
    rw [hcs] at hmagnitude ⊢
    rw [List.cons_append, scanNumeral.eq_def]
    split
    · next heq =>
      simp only [List.cons.injEq] at heq
      rw [heq.1] at hc
      exact absurd hc (by decide)
    · exact hmagnitude

/-- What begins with a minus sign or a digit is scanned as a numeral. -/
theorem scanToken_numeral {c : Char} (hc : c = '-' ∨ isDigit c = true) (cs : List Char) :
    scanToken (c :: cs) = (scanNumeral (c :: cs)).map fun (n, rest) => (.number n, rest) := by
  rw [scanToken.eq_def]
  split
  all_goals first
    | rfl
    | next heq =>
      simp only [List.cons.injEq] at heq
      obtain ⟨rfl, -⟩ := heq
      exact absurd hc (by decide)

theorem scanToken_numeralChars {n : Numeral} (hn : n.isInteger = true) {rest : List Char}
    (hrest : Stops rest) : scanToken (numeralChars n ++ rest) = some (.number n, rest) := by
  have hscan := scanNumeral_numeralChars hn hrest
  have hfirst : ∃ c cs, numeralChars n = c :: cs ∧ (c = '-' ∨ isDigit c = true) := by
    unfold numeralChars
    cases n.negative with
    | true => exact ⟨'-', _, rfl, Or.inl rfl⟩
    | false =>
      obtain ⟨d, cs, hd, hcs⟩ := Text.Decimal.natChars_eq_cons n.whole
      rw [hcs]
      exact ⟨_, _, rfl, Or.inr (isDigit_digitChar d hd)⟩
  obtain ⟨c, cs, heq, hc⟩ := hfirst
  rw [heq, List.cons_append] at hscan ⊢
  rw [scanToken_numeral hc, hscan]
  rfl

/-! ## Whole texts -/

/-- A text is cut into the given words, however much longer it might be. -/
def Reads (cs : List Char) (ts : List Token) : Prop :=
  ∀ fuel, cs.length ≤ fuel → tokensWithin fuel cs = some ts

theorem reads_nil : Reads [] [] := by
  intro fuel _
  unfold tokensWithin
  rfl

theorem tokens?_of_reads {cs : List Char} {ts : List Token} (h : Reads cs ts) :
    tokens? cs = some ts :=
  h cs.length (Nat.le_refl _)

/-- One word in front of a text that is read. -/
theorem Reads.word {word rest : List Char} {token : Token} {ts : List Token}
    (hscan : scanToken (word ++ rest) = some (token, rest))
    (hfirst : ∃ c cs, word = c :: cs ∧ isSpace c = false) (h : Reads rest ts) :
    Reads (word ++ rest) (token :: ts) := by
  obtain ⟨c, cs, rfl, hc⟩ := hfirst
  intro fuel hfuel
  cases fuel with
  | zero => simp at hfuel
  | succ fuel =>
    -- a word is at least one character long, so the rest needs less fuel
    have hrest : rest.length ≤ fuel := by
      simp only [List.cons_append, List.length_cons, List.length_append] at hfuel
      omega
    rw [List.cons_append] at hscan ⊢
    rw [tokensWithin, hc]
    simp [hscan, h fuel hrest]

theorem Reads.string (s : String) {rest : List Char} {ts : List Token} (h : Reads rest ts) :
    Reads (stringChars s ++ rest) (.string (some s) :: ts) :=
  .word (scanToken_stringChars s rest) ⟨'"', _, rfl, by decide⟩ h

theorem Reads.number {n : Numeral} (hn : n.isInteger = true) {rest : List Char}
    {ts : List Token} (hrest : Stops rest) (h : Reads rest ts) :
    Reads (numeralChars n ++ rest) (.number n :: ts) := by
  apply Reads.word (scanToken_numeralChars hn hrest) _ h
  unfold numeralChars
  cases n.negative with
  | true => exact ⟨'-', _, rfl, by decide⟩
  | false =>
    have hspace : ∀ d < 10, isSpace (Text.Decimal.digitChar d) = false := by decide
    obtain ⟨d, cs, hd, hcs⟩ := Text.Decimal.natChars_eq_cons n.whole
    rw [hcs]
    exact ⟨_, _, rfl, hspace d hd⟩

end Json

end PoolWatch
