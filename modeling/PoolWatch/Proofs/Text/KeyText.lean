import PoolWatch.Key
import PoolWatch.Proofs.Text.Decimal

/-! # Key texts read back

    Base 58 loses nothing: the leading zero bytes are counted by leading
    ones, and what is left is the number of the other bytes.  A key's text
    has at most 44 characters, so it is never refused for its size, and
    reading it gives the key.

    Two keys have therefore different texts, which is what keeps the records
    of different venues apart in the store. -/

namespace PoolWatch

/-! ## Numbers of byte strings -/

theorem natOfLE_eq (bytes : Bytes) : natOfLE bytes = Nat.ofDigits 256 (bytes.map UInt8.toNat) := by
  induction bytes with
  | nil => rfl
  | cons b rest ih => rw [natOfLE, ih, List.map_cons, Nat.ofDigits_cons]

/-- Bytes whose last one is not zero are the digits of their number. -/
theorem digits_natOfLE (bytes : Bytes) (h : bytes.getLast? ≠ some 0) :
    Nat.digits 256 (natOfLE bytes) = bytes.map UInt8.toNat := by
  rw [natOfLE_eq]
  apply Nat.digits_ofDigits 256 (by decide)
  · intro d hd
    obtain ⟨b, -, rfl⟩ := List.mem_map.1 hd
    exact b.toNat_lt
  · intro hne hzero
    apply h
    have hbytes : bytes ≠ [] := by simpa using hne
    rw [List.getLast_map] at hzero
    rw [List.getLast?_eq_some_getLast hbytes]
    exact congrArg some (UInt8.toNat_inj.1 hzero)

theorem natOfLE_lt_pow (bytes : Bytes) : natOfLE bytes < 256 ^ bytes.length := by
  rw [natOfLE_eq]
  have h := Nat.ofDigits_lt_base_pow_length (b := 256) (l := bytes.map UInt8.toNat) (by decide)
    (fun d hd => by
      obtain ⟨b, -, rfl⟩ := List.mem_map.1 hd
      exact b.toNat_lt)
  simpa using h

/-! ## Leading zeros -/

/-- How many zeros stand in front. -/
def leadingZeros (bytes : Bytes) : Nat :=
  (bytes.takeWhile (· == 0)).length

/-- What follows the zeros in front. -/
def afterZeros (bytes : Bytes) : Bytes :=
  bytes.dropWhile (· == 0)

/-- What stands in front of a list, as long as it is one and the same. -/
theorem takeWhile_eq_replicate {α : Type} [BEq α] [LawfulBEq α] (zero : α) (l : List α) :
    l.takeWhile (· == zero) = List.replicate (l.takeWhile (· == zero)).length zero := by
  apply List.eq_replicate_of_mem
  intro a ha
  have hall := List.all_takeWhile (p := (· == zero)) (l := l)
  simpa using List.all_eq_true.1 hall a ha

theorem length_takeWhile_replicate_append {α : Type} [BEq α] [LawfulBEq α] {zero : α} (n : Nat)
    {rest : List α} (h : rest.head? ≠ some zero) :
    ((List.replicate n zero ++ rest).takeWhile (· == zero)).length = n := by
  have hfront : ∀ a ∈ List.replicate n zero, (a == zero) = true := by
    intro a ha
    rw [List.eq_of_mem_replicate ha, beq_self_eq_true]
  rw [List.takeWhile_append_of_pos hfront]
  cases rest with
  | nil => simp
  | cons a rest =>
    have ha : (a == zero) = false := by simpa using h
    simp [ha]

theorem takeWhile_zero_eq_replicate (bytes : Bytes) :
    bytes.takeWhile (· == 0) = List.replicate (leadingZeros bytes) 0 :=
  takeWhile_eq_replicate 0 bytes

theorem replicate_append_afterZeros (bytes : Bytes) :
    List.replicate (leadingZeros bytes) 0 ++ afterZeros bytes = bytes := by
  rw [← takeWhile_zero_eq_replicate]
  exact List.takeWhile_append_dropWhile

theorem leadingZeros_add_length (bytes : Bytes) :
    leadingZeros bytes + (afterZeros bytes).length = bytes.length := by
  have h := congrArg List.length (replicate_append_afterZeros bytes)
  simpa using h

theorem head?_afterZeros (bytes : Bytes) : (afterZeros bytes).head? ≠ some 0 := by
  intro h
  have hdrop := List.head?_dropWhile_not (· == (0 : UInt8)) bytes
  rw [← afterZeros, h] at hdrop
  simp at hdrop

theorem natOfBE_afterZeros (bytes : Bytes) : natOfBE (afterZeros bytes) = natOfBE bytes := by
  conv_rhs => rw [← replicate_append_afterZeros bytes]
  unfold natOfBE
  rw [natOfLE_eq, natOfLE_eq, List.reverse_append, List.map_append, List.reverse_replicate,
    List.map_replicate]
  exact (Nat.ofDigits_append_replicate_zero _).symm

namespace Text.Base58

/-! ## Digits as characters -/

theorem value?_digit {d : Nat} (h : d < 58) : value? (digit d) = some d := by
  have hall : ∀ d < 58, value? (digit d) = some d := by decide
  exact hall d h

theorem utf8Size_digit (d : Nat) : (digit d).utf8Size = 1 := by
  by_cases h : d < 58
  · have hall : ∀ d < 58, (digit d).utf8Size = 1 := by decide
    exact hall d h
  · have hone : digit d = '1' := by
      have hlen : alphabet.length ≤ d := Nat.le_of_not_lt h
      rw [digit, List.getD_eq_getElem?_getD, List.getElem?_eq_none hlen]
      rfl
    rw [hone]
    rfl

/-- The digits of a byte string's text, in order. -/
def places (bytes : Bytes) : List Nat :=
  List.replicate (leadingZeros bytes) 0 ++ (Nat.digits 58 (natOfBE bytes)).reverse

theorem encodeChars_eq (bytes : Bytes) : encodeChars bytes = (places bytes).map digit := by
  rw [places, List.map_append, List.map_reverse, List.map_replicate, ← digits_eq 58 (by decide)]
  rfl

theorem places_lt (bytes : Bytes) : ∀ d ∈ places bytes, d < 58 := by
  intro d hd
  rw [places, List.mem_append] at hd
  rcases hd with hd | hd
  · rw [List.eq_of_mem_replicate hd]
    decide
  · exact Nat.digits_lt_base (by decide) (List.mem_reverse.1 hd)

/-! ## Reading -/

theorem mapM_value?_digits (ds : List Nat) (h : ∀ d ∈ ds, d < 58) :
    (ds.map digit).mapM value? = some ds := by
  induction ds with
  | nil => rfl
  | cons d ds ih =>
    have hd := value?_digit (h d (List.mem_cons_self ..))
    have hds := ih fun e he => h e (List.mem_cons_of_mem d he)
    simp [List.mapM_cons, hd, hds]

theorem takeWhile_zero_places (bytes : Bytes) :
    ((places bytes).takeWhile (· == 0)).length = leadingZeros bytes :=
  length_takeWhile_replicate_append _ (head?_reverse_digits_ne_zero 58 (natOfBE bytes))

theorem ofDigits_places (bytes : Bytes) :
    Nat.ofDigits 58 (places bytes).reverse = natOfBE bytes := by
  rw [places, List.reverse_append, List.reverse_reverse, List.reverse_replicate,
    Nat.ofDigits_append_replicate_zero, Nat.ofDigits_digits]

/-- The bytes of the number are the bytes after the zeros. -/
theorem digits_natOfBE (bytes : Bytes) :
    ((Nat.digits 256 (natOfBE bytes)).map UInt8.ofNat).reverse = afterZeros bytes := by
  have hlast : (afterZeros bytes).reverse.getLast? ≠ some 0 := by
    rw [List.getLast?_reverse]
    exact head?_afterZeros bytes
  have hdigits := digits_natOfLE (afterZeros bytes).reverse hlast
  rw [← natOfBE_afterZeros, natOfBE, hdigits, List.map_map]
  have hid : (UInt8.ofNat ∘ UInt8.toNat) = id := by
    funext b
    simp
  rw [hid, List.map_id, List.reverse_reverse]

/-- Reading the text of a byte string gives it back. -/
theorem decodeChars?_encodeChars (bytes : Bytes) :
    decodeChars? (encodeChars bytes) = some bytes := by
  rw [encodeChars_eq, decodeChars?, mapM_value?_digits _ (places_lt bytes)]
  simp only [Option.bind_eq_bind, Option.bind_some, Option.pure_def]
  rw [takeWhile_zero_places, ofDigits_eq, ofDigits_places, digits_eq, digits_natOfBE,
    replicate_append_afterZeros]

@[simp] theorem decode?_encode (bytes : Bytes) : decode? (encode bytes) = some bytes := by
  rw [decode?, encode, String.toList_ofList, decodeChars?_encodeChars]

/-! ## Texts that are read

    A text that reads as some bytes is the text of these bytes: its leading
    ones are their leading zeros, and a number has one row of digits. -/

theorem value?_eq_some {c : Char} {d : Nat} (h : value? c = some d) : d < 58 ∧ digit d = c := by
  obtain ⟨hd, hc, -⟩ := List.idxOf?_eq_some_iff.1 h
  refine ⟨hd, ?_⟩
  unfold digit
  rw [List.getD_eq_getElem?_getD, List.getElem?_eq_getElem hd]
  exact hc

theorem mapM_value?_eq_some {text : List Char} {ds : List Nat} (h : text.mapM value? = some ds) :
    (∀ d ∈ ds, d < 58) ∧ text = ds.map digit := by
  induction text generalizing ds with
  | nil =>
    cases h
    exact ⟨nofun, rfl⟩
  | cons c text ih =>
    rw [List.mapM_cons] at h
    obtain ⟨d, hd, h⟩ := Option.bind_eq_some_iff.1 h
    obtain ⟨more, hmore, h⟩ := Option.bind_eq_some_iff.1 h
    cases h
    obtain ⟨hlt, rfl⟩ := value?_eq_some hd
    obtain ⟨hall, rfl⟩ := ih hmore
    exact ⟨List.forall_mem_cons.2 ⟨hlt, hall⟩, rfl⟩

/-- A row of digits is its leading zeros and the digits of its number. -/
theorem replicate_append_digits {ds : List Nat} (h : ∀ d ∈ ds, d < 58) :
    List.replicate (ds.takeWhile (· == 0)).length 0 ++
      (Nat.digits 58 (Nat.ofDigits 58 ds.reverse)).reverse = ds := by
  have hzeros := takeWhile_eq_replicate 0 ds
  have hsplit := List.takeWhile_append_dropWhile (p := (· == 0)) (l := ds)
  have hnumber : Nat.ofDigits 58 ds.reverse = Nat.ofDigits 58 (ds.dropWhile (· == 0)).reverse := by
    conv_lhs => rw [← hsplit, hzeros]
    rw [List.reverse_append, List.reverse_replicate, Nat.ofDigits_append_replicate_zero]
  have hdigits : Nat.digits 58 (Nat.ofDigits 58 (ds.dropWhile (· == 0)).reverse) =
      (ds.dropWhile (· == 0)).reverse := by
    apply Nat.digits_ofDigits 58 (by decide)
    · intro d hd
      exact h d ((List.dropWhile_sublist _).subset (List.mem_reverse.1 hd))
    · intro hne hzero
      -- the first digit that is left is no zero
      have hhead := List.head?_dropWhile_not (· == 0) ds
      rw [List.getLast_reverse] at hzero
      rw [List.head?_eq_some_head (by simpa using hne)] at hhead
      simp [hzero] at hhead
  rw [hnumber, hdigits, List.reverse_reverse, ← hzeros, hsplit]

/-- The bytes of a number, with zeros in front. -/
def filledBytes (zeros n : Nat) : Bytes :=
  List.replicate zeros 0 ++ ((Nat.digits 256 n).map UInt8.ofNat).reverse

theorem map_toNat_digits (n : Nat) :
    ((Nat.digits 256 n).map UInt8.ofNat).map UInt8.toNat = Nat.digits 256 n := by
  have hdigit : ∀ d ∈ Nat.digits 256 n, (UInt8.toNat ∘ UInt8.ofNat) d = id d := by
    intro d hd
    exact UInt8.toNat_ofNat_of_lt' (Nat.digits_lt_base (by decide) hd)
  rw [List.map_map, List.map_congr_left hdigit, List.map_id]

theorem leadingZeros_filledBytes (zeros n : Nat) : leadingZeros (filledBytes zeros n) = zeros := by
  apply length_takeWhile_replicate_append
  intro h
  have hhead := congrArg (Option.map UInt8.toNat) h
  rw [← List.head?_map, List.map_reverse, map_toNat_digits] at hhead
  exact head?_reverse_digits_ne_zero 256 n hhead

theorem natOfBE_filledBytes (zeros n : Nat) : natOfBE (filledBytes zeros n) = n := by
  unfold natOfBE filledBytes
  rw [natOfLE_eq, List.reverse_append, List.reverse_reverse, List.reverse_replicate,
    List.map_append, map_toNat_digits, List.map_replicate]
  show Nat.ofDigits 256 (Nat.digits 256 n ++ List.replicate zeros 0) = n
  rw [Nat.ofDigits_append_replicate_zero, Nat.ofDigits_digits]

theorem eq_encodeChars_of_decodeChars? {text : List Char} {bytes : Bytes}
    (h : decodeChars? text = some bytes) : text = encodeChars bytes := by
  unfold decodeChars? at h
  obtain ⟨ds, hds, hbytes⟩ := Option.bind_eq_some_iff.1 h
  obtain ⟨hlt, rfl⟩ := mapM_value?_eq_some hds
  cases hbytes
  rw [digits_eq, ofDigits_eq]
  show ds.map digit = encodeChars (filledBytes _ _)
  rw [encodeChars_eq, places, leadingZeros_filledBytes, natOfBE_filledBytes,
    replicate_append_digits hlt]

theorem decode?_eq_some_iff {text : String} {bytes : Bytes} :
    decode? text = some bytes ↔ text = encode bytes := by
  constructor
  · intro h
    rw [encode, ← eq_encodeChars_of_decodeChars? h, String.ofList_toList]
  · rintro rfl
    exact decode?_encode bytes

/-! ## Length -/

theorem utf8ByteSize_ofList_digits (ds : List Nat) :
    (String.ofList (ds.map digit)).utf8ByteSize = ds.length := by
  induction ds with
  | nil => rfl
  | cons d ds ih =>
    rw [List.map_cons, String.ofList_cons, String.utf8ByteSize_append, ih,
      String.utf8ByteSize_singleton, utf8Size_digit, List.length_cons, Nat.add_comm]

/-- Forty-four digits hold thirty-two bytes; a zero byte takes one digit of
    its own and lets the number need at least one less. -/
theorem length_places_le (bytes : Bytes) (h : bytes.length = 32) : (places bytes).length ≤ 44 := by
  have hsum := leadingZeros_add_length bytes
  have hlt : natOfBE bytes < 256 ^ (32 - leadingZeros bytes) := by
    have hbound := natOfLE_lt_pow (afterZeros bytes).reverse
    rw [← natOfBE, natOfBE_afterZeros, List.length_reverse] at hbound
    have hlen : (afterZeros bytes).length = 32 - leadingZeros bytes := by omega
    rwa [hlen] at hbound
  -- how many digits the number may take, for each count of leading zeros
  have hpow : ∀ z ≤ 32, 256 ^ (32 - z) ≤ 58 ^ (44 - z) := by decide
  have hz : leadingZeros bytes ≤ 32 := by omega
  have hdigits : (Nat.digits 58 (natOfBE bytes)).length ≤ 44 - leadingZeros bytes :=
    (Nat.digits_length_le_iff (by decide) _).2 (Nat.lt_of_lt_of_le hlt (hpow _ hz))
  rw [places, List.length_append, List.length_replicate, List.length_reverse]
  omega

theorem utf8ByteSize_encode_le (bytes : Bytes) (h : bytes.length = 32) :
    (encode bytes).utf8ByteSize ≤ 44 := by
  rw [encode, encodeChars_eq, utf8ByteSize_ofList_digits]
  exact length_places_le bytes h

end Text.Base58

/-! ## Keys -/

namespace Key

@[simp] theorem ofBytes?_bytes (k : Key) : ofBytes? k.bytes = some k := by
  rw [ofBytes?, dif_pos k.size]

/-- A key is read from its text. -/
@[simp] theorem parse_text (k : Key) : parse k.text = .ok k := by
  have hsize : ¬ maxTextLength < k.text.utf8ByteSize :=
    Nat.not_lt.2 (Text.Base58.utf8ByteSize_encode_le k.bytes k.size)
  unfold parse
  rw [if_neg hsize, text, Text.Base58.decode?_encode]
  simp only [ofBytes?_bytes]

@[simp] theorem parse?_text (k : Key) : parse? k.text = some k := by
  rw [parse?, parse_text]
  rfl

/-- The texts that are read as keys are the texts of keys. -/
theorem parse?_eq_some_iff {s : String} {k : Key} : parse? s = some k ↔ s = k.text := by
  constructor
  · intro h
    unfold parse? parse at h
    split at h
    · cases h
    cases hdecode : Text.Base58.decode? s with
    | none =>
      rw [hdecode] at h
      cases h
    | some bytes =>
      rw [hdecode] at h
      by_cases hsize : bytes.length = 32
      · simp only [ofBytes?, dif_pos hsize, Except.toOption, Option.some.injEq] at h
        subst h
        exact Text.Base58.decode?_eq_some_iff.1 hdecode
      · simp [ofBytes?, hsize, Except.toOption] at h
  · rintro rfl
    exact parse?_text k

theorem text_inj {k l : Key} : k.text = l.text ↔ k = l := by
  constructor
  · intro h
    have hparse := congrArg parse? h
    simpa using hparse
  · rintro rfl
    rfl

end Key

end PoolWatch
