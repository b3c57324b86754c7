import PoolWatch.Text.Utf8
import Mathlib.Data.List.Basic
import Mathlib.Data.List.TakeWhile

/-! # Text that is read leniently

    Bytes that are text have no stretch to mark: the lenient reading gives
    the text, as the strict one does.  A character is written in one to four
    bytes, of which the first tells how many, and the case distinctions below
    follow them. -/

namespace PoolWatch.Text.Utf8

variable {mark c : Char} {lead b : UInt8} {tail rest : Bytes}

/-! ## One character -/

theorem isContinuation_iff : isContinuation b = true ↔ 128 ≤ b.toNat ∧ b.toNat ≤ 191 := by
  simp [isContinuation, UInt8.le_iff_toNat_le]

/-- What may come second is told by the numbers of both bytes. -/
theorem isSecond_of_toNat (hlow : 128 ≤ b.toNat) (hhigh : b.toNat ≤ 191)
    (h224 : lead.toNat = 224 → 160 ≤ b.toNat) (h237 : lead.toNat = 237 → b.toNat ≤ 159)
    (h240 : lead.toNat = 240 → 144 ≤ b.toNat) (h244 : lead.toNat = 244 → b.toNat ≤ 143) :
    isSecond lead b = true := by
  unfold isSecond
  split
  · next hlead => simpa [UInt8.le_iff_toNat_le, hhigh] using h224 (congrArg UInt8.toNat hlead)
  split
  · next hlead => simpa [UInt8.le_iff_toNat_le, hlow] using h237 (congrArg UInt8.toNat hlead)
  split
  · next hlead => simpa [UInt8.le_iff_toNat_le, hhigh] using h240 (congrArg UInt8.toNat hlead)
  split
  · next hlead => simpa [UInt8.le_iff_toNat_le, hlow] using h244 (congrArg UInt8.toNat hlead)
  · exact isContinuation_iff.2 ⟨hlow, hhigh⟩

theorem following_eq (lead : UInt8) : following lead =
    if lead.toNat < 128 then some 0
    else if 194 ≤ lead.toNat ∧ lead.toNat ≤ 223 then some 1
    else if 224 ≤ lead.toNat ∧ lead.toNat ≤ 239 then some 2
    else if 240 ≤ lead.toNat ∧ lead.toNat ≤ 244 then some 3
    else none := by
  simp [following, UInt8.lt_iff_toNat_lt, UInt8.le_iff_toNat_le]

/-- A lead byte and the bytes that it asks for are taken as one character. -/
theorem first_append (hwant : following lead = some tail.length)
    (hsecond : ∀ b ∈ tail.head?, isSecond lead b = true)
    (hcontinue : ∀ b ∈ tail.tail, isContinuation b = true)
    (hchar : Char.ofNat (tail.foldl (fun acc b => acc * 64 + b.toNat % 64)
      (leadBits lead tail.length)) = c) :
    first mark lead (tail ++ rest) = (c, tail.length) := by
  have htail : continued lead tail.length (tail ++ rest) = tail := by
    cases tail with
    | nil => rfl
    | cons b more =>
      have hmore : more.takeWhile isContinuation = more := List.takeWhile_eq_self_iff.2 hcontinue
      simp only [List.cons_append, List.length_cons, continued]
      rw [if_pos (hsecond b rfl), List.take_left, hmore]
  unfold first
  rw [hwant]
  dsimp only
  rw [htail, if_pos rfl, hchar]

/-- The byte that carries six further bits. -/
theorem toNat_continuation (n : Nat) : (UInt8.ofNat (n % 64 + 128)).toNat = n % 64 + 128 := by
  rw [UInt8.toNat_ofNat']
  omega

/-- A character is taken as it was written. -/
theorem first_utf8EncodeChar (mark c : Char) (rest : Bytes) : ∃ lead tail,
    String.utf8EncodeChar c = lead :: tail ∧
      first mark lead (tail ++ rest) = (c, tail.length) := by
  have hchar : Char.ofNat c.val.toNat = c := Char.ofNat_toNat c
  have hvalid : c.val.toNat < 0xD800 ∨ 0xDFFF < c.val.toNat ∧ c.val.toNat < 0x110000 := c.valid
  generalize hv : c.val.toNat = v at hchar hvalid
  unfold String.utf8EncodeChar
  rw [hv]
  dsimp only
  split
  · -- one byte
    have hlead : (UInt8.ofNat v).toNat = v := by rw [UInt8.toNat_ofNat']; omega
    refine ⟨_, [], rfl, first_append ?_ nofun nofun ?_⟩
    · rw [following_eq, hlead, if_pos (by omega)]
      rfl
    · show Char.ofNat (UInt8.ofNat v).toNat = c
      rw [hlead, hchar]
  split
  · -- two bytes
    have hlead : (UInt8.ofNat (v / 64 % 32 + 192)).toNat = v / 64 + 192 := by
      rw [UInt8.toNat_ofNat']; omega
    have hlast := toNat_continuation v
    refine ⟨_, [_], rfl, first_append ?_ ?_ nofun ?_⟩
    · rw [following_eq, hlead, if_neg (by omega), if_pos (by omega)]
      rfl
    · intro b hb
      obtain rfl := Option.some.inj hb
      apply isSecond_of_toNat <;> rw [hlast] <;> omega
    · rw [← hchar]
      congr 1
      simp only [List.foldl_cons, List.foldl_nil, List.length_cons, List.length_nil, leadBits,
        hlead, hlast]
      omega
  split
  · -- three bytes
    have hlead : (UInt8.ofNat (v / 4096 % 16 + 224)).toNat = v / 4096 + 224 := by
      rw [UInt8.toNat_ofNat']; omega
    have hnext := toNat_continuation (v / 64)
    have hlast := toNat_continuation v
    refine ⟨_, [_, _], rfl, first_append ?_ ?_ ?_ ?_⟩
    · rw [following_eq, hlead, if_neg (by omega), if_neg (by omega), if_pos (by omega)]
      rfl
    · intro b hb
      obtain rfl := Option.some.inj hb
      -- surrogates are no characters
      apply isSecond_of_toNat <;> rw [hnext] <;> omega
    · intro b hb
      obtain rfl := List.mem_singleton.1 hb
      rw [isContinuation_iff, hlast]
      omega
    · rw [← hchar]
      congr 1
      simp only [List.foldl_cons, List.foldl_nil, List.length_cons, List.length_nil, leadBits,
        hlead, hnext, hlast]
      omega
  · -- four bytes
    have hlead : (UInt8.ofNat (v / 262144 % 8 + 240)).toNat = v / 262144 + 240 := by
      rw [UInt8.toNat_ofNat']; omega
    have hnext := toNat_continuation (v / 4096)
    have hthird := toNat_continuation (v / 64)
    have hlast := toNat_continuation v
    refine ⟨_, [_, _, _], rfl, first_append ?_ ?_ ?_ ?_⟩
    · rw [following_eq, hlead, if_neg (by omega), if_neg (by omega), if_neg (by omega),
        if_pos (by omega)]
      rfl
    · intro b hb
      obtain rfl := Option.some.inj hb
      apply isSecond_of_toNat <;> rw [hnext] <;> omega
    · intro b hb
      rw [isContinuation_iff]
      rcases List.mem_cons.1 hb with rfl | hb
      · rw [hthird]
        omega
      · obtain rfl := List.mem_singleton.1 hb
        rw [hlast]
        omega
    · rw [← hchar]
      congr 1
      simp only [List.foldl_cons, List.foldl_nil, List.length_cons, List.length_nil, leadBits,
        hlead, hnext, hthird, hlast]
      omega

/-! ## Texts -/

theorem lenientChars_cons (mark : Char) (lead : UInt8) (rest : Bytes) :
    lenientChars mark (lead :: rest) =
      (first mark lead rest).1 :: lenientChars mark (rest.drop (first mark lead rest).2) := by
  rw [lenientChars]

/-- What was written is read, whatever the mark. -/
theorem lenientChars_flatMap (mark : Char) (cs : List Char) :
    lenientChars mark (cs.flatMap String.utf8EncodeChar) = cs := by
  -- character by character
  induction cs with
  | nil => rw [List.flatMap_nil, lenientChars]
  | cons c cs ih =>
    obtain ⟨lead, tail, hwritten, hfirst⟩ :=
      first_utf8EncodeChar mark c (cs.flatMap String.utf8EncodeChar)
    rw [List.flatMap_cons, hwritten, List.cons_append, lenientChars_cons, hfirst, List.drop_left,
      ih]

theorem encode_eq (text : String) : encode text = text.toList.flatMap String.utf8EncodeChar := by
  have hbytes : text.toUTF8 = (text.toList.flatMap String.utf8EncodeChar).toByteArray :=
    String.utf8Encode_toList.symm
  unfold encode
  rw [hbytes, List.data_toByteArray]

/-- Bytes are text when they are what some text is written as. -/
theorem decode?_eq_some_iff {bytes : Bytes} {text : String} :
    decode? bytes = some text ↔ bytes = encode text := by
  unfold decode? String.fromUTF8? encode
  constructor
  · intro h
    split at h
    · obtain rfl := Option.some.inj h
      rfl
    · cases h
  · rintro rfl
    have hvalid : ByteArray.IsValidUTF8 ⟨text.toUTF8.data.toList.toArray⟩ := text.isValidUTF8
    rw [dif_pos hvalid]
    rfl

/-- Bytes that are text are read without a mark. -/
theorem lenientChars_of_decode? {bytes : Bytes} {text : String} (mark : Char)
    (h : decode? bytes = some text) : lenientChars mark bytes = text.toList := by
  rw [decode?_eq_some_iff.1 h, encode_eq, lenientChars_flatMap]

/-- What a text is written as reads as that text. -/
theorem decode_encode (text : String) : decode (encode text) = text := by
  unfold decode
  rw [encode_eq, lenientChars_flatMap, String.ofList_toList]

end PoolWatch.Text.Utf8
