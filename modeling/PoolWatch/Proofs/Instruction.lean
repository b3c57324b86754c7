import PoolWatch.Instruction
import PoolWatch.Proofs.Bytes

/-! # What instruction data says

    Data is read up to the width of its layout, and bytes past its end count
    as zero.  An instruction that was read is written by just these bytes
    (`written_of_decodeVenue` and its likes), so two data are read alike
    exactly when they agree on them. -/

namespace PoolWatch.Instruction

/-! ## Layouts -/

/-- The bytes that write an instruction. -/
def written : Instruction → Bytes
  | .openPool nonce openTime quoteAmount baseAmount =>
    openPoolTag :: nonce ::
      (leOfWord64 openTime ++ leOfWord64 quoteAmount ++ leOfWord64 baseAmount)
  | .withdraw amount => withdrawTag :: leOfWord64 amount
  | .swapBaseIn amountIn minimumOut => encodeSwap amountIn minimumOut
  | .swapBaseOut maximumIn amountOut =>
    swapBaseOutTag :: leOfWord64 maximumIn ++ leOfWord64 amountOut
  | .computeBudget op value => op :: leOfWord32 value
  | .transfer op amount => leOfWord32 op ++ leOfWord64 amount.toUInt64

/-- The first byte of some data; zero when there is none. -/
def tagOf (data : Bytes) : UInt8 :=
  data.getD 0 0

/-- The first bytes that the watched program knows. -/
def venueTags : List UInt8 :=
  [openPoolTag, withdrawTag, swapBaseInTag, swapBaseOutTag]

/-- How far the data of a tag is read. -/
def venueWidth (tag : UInt8) : Nat :=
  if tag = openPoolTag then 26 else if tag = withdrawTag then 9 else 17

variable {data data' : Bytes}

theorem head?_getD (data : Bytes) : (data.head?).getD 0 = tagOf data := by
  cases data <;> rfl

theorem tagOf_window {width : Nat} (h : 0 < width) (data : Bytes) :
    tagOf (window data 0 width) = tagOf data := by
  obtain ⟨width, rfl⟩ := Nat.exists_eq_add_of_lt h
  rw [window_eq_map, Nat.zero_add, List.range_succ_eq_map]
  rfl

theorem signed_word (data : Bytes) (pos : Nat) :
    leOfWord64 (signed64At data pos).toUInt64 = window data pos 8 := by
  have hword : (signed64At data pos).toUInt64 = word64At data pos := rfl
  rw [hword, leOfWord64_word64At]

/-! ## The watched program -/

section Venue

variable (fields : Bytes)

theorem decodeVenue_openPool : decodeVenue (openPoolTag :: fields) =
    .ok (.openPool ((fields.head?).getD 0) (word64At fields 1) (word64At fields 9)
      (word64At fields 17)) := rfl

theorem decodeVenue_withdraw :
    decodeVenue (withdrawTag :: fields) = .ok (.withdraw (word64At fields 0)) := rfl

theorem decodeVenue_swapBaseIn : decodeVenue (swapBaseInTag :: fields) =
    .ok (.swapBaseIn (word64At fields 0) (word64At fields 8)) := rfl

theorem decodeVenue_swapBaseOut : decodeVenue (swapBaseOutTag :: fields) =
    .ok (.swapBaseOut (word64At fields 0) (word64At fields 8)) := rfl

end Venue

theorem tag_cases {tag : UInt8} : tag ∈ venueTags ↔
    tag = openPoolTag ∨ tag = withdrawTag ∨ tag = swapBaseInTag ∨ tag = swapBaseOutTag := by
  simp [venueTags]

/-- Data with a known tag start with it: no tag is zero. -/
theorem exists_fields (h : tagOf data ∈ venueTags) : ∃ fields, data = tagOf data :: fields := by
  cases data with
  | nil => exact absurd h (by decide)
  | cons tag fields => exact ⟨fields, rfl⟩

theorem decodeVenue_of_unknown (h : tagOf data ∉ venueTags) :
    decodeVenue data = .error (.unknownInstruction (tagOf data)) := by
  cases data with
  | nil => rfl
  | cons tag fields =>
    have htag : tag ∉ venueTags := h
    rw [tag_cases] at htag
    simp only [not_or] at htag
    obtain ⟨hopen, hwithdraw, hin, hout⟩ := htag
    rw [decodeVenue, if_neg hopen, if_neg hwithdraw, if_neg hin, if_neg hout]
    rfl

/-- What was read is written by the bytes that were looked at. -/
theorem written_of_decodeVenue (h : tagOf data ∈ venueTags) :
    ∃ ix, decodeVenue data = .ok ix ∧
      ix.written = window data 0 (venueWidth (tagOf data)) := by
  obtain ⟨fields, hdata⟩ := exists_fields h
  rcases tag_cases.1 h with htag | htag | htag | htag <;> rw [htag] at hdata <;> subst hdata
  · have hnonce : window fields 0 1 = [(fields.head?).getD 0] := by
      rw [head?_getD, window_eq_map]
      rfl
    have hfields : window fields 0 25 = window fields 0 1 ++ window fields 1 8 ++
        window fields 9 8 ++ window fields 17 8 := by
      rw [window_add fields 0 17 8, window_add fields 0 9 8, window_add fields 0 1 8]
    refine ⟨_, decodeVenue_openPool fields, ?_⟩
    show _ = window (openPoolTag :: fields) 0 (25 + 1)
    rw [window_succ, hfields, hnonce]
    simp only [written, leOfWord64_word64At, List.cons_append, List.nil_append]
  · refine ⟨_, decodeVenue_withdraw fields, ?_⟩
    show _ = window (withdrawTag :: fields) 0 (8 + 1)
    rw [window_succ]
    simp only [written, leOfWord64_word64At]
  · refine ⟨_, decodeVenue_swapBaseIn fields, ?_⟩
    show _ = window (swapBaseInTag :: fields) 0 (8 + 8 + 1)
    rw [window_succ, window_add]
    simp only [written, encodeSwap, leOfWord64_word64At, List.cons_append, Nat.zero_add]
  · refine ⟨_, decodeVenue_swapBaseOut fields, ?_⟩
    show _ = window (swapBaseOutTag :: fields) 0 (8 + 8 + 1)
    rw [window_succ, window_add]
    simp only [written, leOfWord64_word64At, List.cons_append, Nat.zero_add]

theorem decodeVenue_eq_error_iff {e : DecodeError} :
    decodeVenue data = .error e ↔
      tagOf data ∉ venueTags ∧ e = .unknownInstruction (tagOf data) := by
  constructor
  · intro h
    by_cases htag : tagOf data ∈ venueTags
    · obtain ⟨ix, hread, -⟩ := written_of_decodeVenue htag
      rw [hread] at h
      cases h
    · rw [decodeVenue_of_unknown htag] at h
      exact ⟨htag, (Except.error.inj h).symm⟩
  · rintro ⟨htag, rfl⟩
    exact decodeVenue_of_unknown htag

/-- The first byte is always looked at. -/
theorem venueWidth_pos (tag : UInt8) : 0 < venueWidth tag := by
  unfold venueWidth
  split
  · decide
  · split <;> decide

/-- Data that agree as far as they are looked at are read alike. -/
theorem decodeVenue_congr (h : tagOf data ∈ venueTags)
    (hagree : AgreeTo (venueWidth (tagOf data)) data data') :
    decodeVenue data' = decodeVenue data := by
  have hsame : tagOf data = tagOf data' := hagree 0 (venueWidth_pos _)
  obtain ⟨fields, hdata⟩ := exists_fields h
  obtain ⟨fields', hdata'⟩ := exists_fields (hsame ▸ h)
  rw [← hsame] at hdata'
  rcases tag_cases.1 h with htag | htag | htag | htag <;> rw [htag] at hdata hdata' hagree <;>
    subst hdata hdata'
  · have hfields : AgreeTo 25 fields fields' := hagree.tail
    have hnonce : tagOf fields = tagOf fields' := hfields 0 (by decide)
    rw [decodeVenue_openPool, decodeVenue_openPool, head?_getD, head?_getD, hnonce,
      hfields.word64At_eq (by decide), hfields.word64At_eq (by decide),
      hfields.word64At_eq (by decide)]
  · have hfields : AgreeTo 8 fields fields' := hagree.tail
    rw [decodeVenue_withdraw, decodeVenue_withdraw, hfields.word64At_eq (by decide)]
  · have hfields : AgreeTo 16 fields fields' := hagree.tail
    rw [decodeVenue_swapBaseIn, decodeVenue_swapBaseIn, hfields.word64At_eq (by decide),
      hfields.word64At_eq (by decide)]
  · have hfields : AgreeTo 16 fields fields' := hagree.tail
    rw [decodeVenue_swapBaseOut, decodeVenue_swapBaseOut, hfields.word64At_eq (by decide),
      hfields.word64At_eq (by decide)]

/-- Two data are read alike exactly when they agree as far as the tag of the
    one asks for, if that one is understood. -/
theorem decodeVenue_eq_iff (h : tagOf data ∈ venueTags) :
    decodeVenue data' = decodeVenue data ↔ AgreeTo (venueWidth (tagOf data)) data data' := by
  refine ⟨fun hsame => ?_, decodeVenue_congr h⟩
  obtain ⟨ix, hread, hwritten⟩ := written_of_decodeVenue h
  rw [hread] at hsame
  by_cases hknown : tagOf data' ∈ venueTags
  · obtain ⟨ix', hread', hwritten'⟩ := written_of_decodeVenue hknown
    obtain rfl : ix' = ix := Except.ok.inj (hread'.symm.trans hsame)
    have hwindows := hwritten.symm.trans hwritten'
    -- what was written begins with the tag, so the widths are the same
    have htags := congrArg tagOf hwindows
    rw [tagOf_window (venueWidth_pos _), tagOf_window (venueWidth_pos _)] at htags
    rw [← htags] at hwindows
    exact agreeTo_iff.2 hwindows
  · rw [decodeVenue_of_unknown hknown] at hsame
    cases hsame

/-! ## The other programs -/

theorem written_decodeComputeBudget (data : Bytes) :
    (decodeComputeBudget data).written = window data 0 5 := by
  have hop : window data 0 1 = [tagOf data] := by
    rw [window_eq_map]
    rfl
  rw [window_add data 0 1 4, hop, decodeComputeBudget, written, head?_getD, leOfWord32_word32At]
  rfl

theorem written_decodeTransfer (data : Bytes) :
    (decodeTransfer data).written = window data 0 12 := by
  rw [window_add data 0 4 8, decodeTransfer, written, leOfWord32_word32At, signed_word]

theorem decodeComputeBudget_eq_iff :
    decodeComputeBudget data = decodeComputeBudget data' ↔ AgreeTo 5 data data' := by
  constructor
  · intro hsame
    have hwritten := congrArg written hsame
    rw [written_decodeComputeBudget, written_decodeComputeBudget] at hwritten
    exact agreeTo_iff.2 hwritten
  · intro hagree
    have hop : tagOf data = tagOf data' := hagree 0 (by decide)
    unfold decodeComputeBudget
    rw [head?_getD, head?_getD, hop, hagree.word32At_eq (by decide)]

theorem decodeTransfer_eq_iff :
    decodeTransfer data = decodeTransfer data' ↔ AgreeTo 12 data data' := by
  constructor
  · intro hsame
    have hwritten := congrArg written hsame
    rw [written_decodeTransfer, written_decodeTransfer] at hwritten
    exact agreeTo_iff.2 hwritten
  · intro hagree
    unfold decodeTransfer signed64At
    rw [hagree.word32At_eq (by decide), hagree.word64At_eq (by decide)]

/-! ## Swaps written and read -/

/-- A swap that was written is read, whatever follows it. -/
theorem decodeVenue_encodeSwap_append (amountIn minimumOut : UInt64) (tail : Bytes) :
    decodeVenue (encodeSwap amountIn minimumOut ++ tail) =
      .ok (.swapBaseIn amountIn minimumOut) := by
  have hfields : encodeSwap amountIn minimumOut ++ tail =
      swapBaseInTag :: (leOfWord64 amountIn ++ leOfWord64 minimumOut ++ tail) := rfl
  have hin : word64At (leOfWord64 amountIn ++ leOfWord64 minimumOut ++ tail) 0 = amountIn := by
    rw [List.append_assoc]
    exact (word64At_leOfNat [] _ _ (Nat.le_refl 8)).trans UInt64.ofNat_toNat
  have hout : word64At (leOfWord64 amountIn ++ leOfWord64 minimumOut ++ tail) 8 = minimumOut := by
    have hstart : (leOfWord64 amountIn).length = 8 := length_leOfNat ..
    rw [← hstart]
    exact (word64At_leOfNat _ tail _ (Nat.le_refl 8)).trans UInt64.ofNat_toNat
  rw [hfields, decodeVenue_swapBaseIn, hin, hout]

/-- A swap of its own length that was read is written as it stood there. -/
theorem encodeSwap_of_decodeVenue (hlength : data.length = 17) (htag : tagOf data = swapBaseInTag) :
    ∃ amountIn minimumOut, decodeVenue data = .ok (.swapBaseIn amountIn minimumOut) ∧
      encodeSwap amountIn minimumOut = data := by
  have hknown : tagOf data ∈ venueTags := htag ▸ by decide
  obtain ⟨fields, hdata⟩ := exists_fields hknown
  obtain ⟨ix, hread, hwritten⟩ := written_of_decodeVenue hknown
  have hall : window data 0 (venueWidth (tagOf data)) = data := by
    rw [htag, window_eq_take (Nat.le_of_eq hlength.symm), List.drop_zero]
    exact List.take_of_length_le (Nat.le_of_eq hlength)
  rw [htag] at hdata
  subst hdata
  have hix := decodeVenue_swapBaseIn fields
  rw [hread] at hix
  obtain rfl := Except.ok.inj hix
  exact ⟨_, _, hread, hwritten.trans hall⟩

/-! ## All of it -/

theorem tagOf_of_head? {tag : UInt8} (h : data.head? = some tag) : tagOf data = tag := by
  rw [← head?_getD, h]
  rfl

theorem not_mem_venueTags_iff :
    tagOf data ∉ venueTags ↔
      data = [] ∨ ∃ tag, data.head? = some tag ∧ tag ∉ ([1, 4, 9, 11] : List UInt8) := by
  have htags : venueTags = [1, 4, 9, 11] := rfl
  rw [htags]
  cases data with
  | nil => exact iff_of_true (by decide) (.inl rfl)
  | cons tag fields => simp [tagOf]

/-- How instruction data are read.  On the watched program they are refused
    exactly when there are none or their first byte is not 1, 4, 9 or 11, and
    that byte is named, zero for none.  Else they are read up to 26, 9, 17 or
    17 bytes: bytes past their end count as zero, what was read is written by
    just these bytes, and other data are read alike exactly when they agree
    on them.  So it is for the compute budget with 5 bytes and for transfers
    with 12, which refuse nothing.  A swap that was written is read, whatever
    follows it, and one of its own length is written as it stood there. -/
theorem decoding_exact :
    (∀ data e, decodeVenue data = .error e ↔
      (data = [] ∨ ∃ tag, data.head? = some tag ∧ tag ∉ ([1, 4, 9, 11] : List UInt8)) ∧
        e = .unknownInstruction ((data.head?).getD 0)) ∧
    (∀ layout ∈ ([(1, 26), (4, 9), (9, 17), (11, 17)] : List (UInt8 × Nat)), ∀ data,
      data.head? = some layout.1 →
        (∃ ix, decodeVenue data = .ok ix ∧ ix.written = window data 0 layout.2) ∧
        ∀ data', decodeVenue data' = decodeVenue data ↔ AgreeTo layout.2 data data') ∧
    (∀ data, (decodeComputeBudget data).written = window data 0 5 ∧
      ∀ data', decodeComputeBudget data = decodeComputeBudget data' ↔ AgreeTo 5 data data') ∧
    (∀ data, (decodeTransfer data).written = window data 0 12 ∧
      ∀ data', decodeTransfer data = decodeTransfer data' ↔ AgreeTo 12 data data') ∧
    (∀ amountIn minimumOut tail, decodeVenue (encodeSwap amountIn minimumOut ++ tail) =
      .ok (.swapBaseIn amountIn minimumOut)) ∧
    (∀ data : Bytes, data.length = 17 → data.head? = some 9 →
      ∃ amountIn minimumOut, decodeVenue data = .ok (.swapBaseIn amountIn minimumOut) ∧
        encodeSwap amountIn minimumOut = data) := by
  refine ⟨fun data e => ?_, fun layout hlayout data hhead => ?_,
    fun data => ⟨written_decodeComputeBudget data, fun _ => decodeComputeBudget_eq_iff⟩,
    fun data => ⟨written_decodeTransfer data, fun _ => decodeTransfer_eq_iff⟩,
    decodeVenue_encodeSwap_append, fun data hlength hhead => ?_⟩
  · rw [decodeVenue_eq_error_iff, not_mem_venueTags_iff, head?_getD]
  · have htag := tagOf_of_head? hhead
    have hlayouts : ∀ layout ∈ ([(1, 26), (4, 9), (9, 17), (11, 17)] : List (UInt8 × Nat)),
        layout.1 ∈ venueTags ∧ venueWidth layout.1 = layout.2 := by decide
    obtain ⟨hknown, hwidth⟩ := hlayouts layout hlayout
    rw [← htag] at hknown hwidth
    rw [← hwidth]
    exact ⟨written_of_decodeVenue hknown, fun _ => decodeVenue_eq_iff hknown⟩
  · exact encodeSwap_of_decodeVenue hlength (tagOf_of_head? hhead)

/-- A swap that breaks off within its first field is read as with zeros, and
    what follows 17 bytes is not read. -/
theorem decoding_exact_short :
    decodeVenue [9, 5, 1] = .ok (.swapBaseIn 261 0) ∧
      decodeVenue ([9, 5, 1] ++ List.replicate 14 0 ++ [7, 7]) = decodeVenue [9, 5, 1] ∧
      decodeVenue [9, 5, 2] ≠ decodeVenue [9, 5, 1] ∧
      decodeVenue [7] = .error (.unknownInstruction 7) := by
  obtain ⟨hrefused, hlayouts, -⟩ := decoding_exact
  obtain ⟨-, halike⟩ := hlayouts (9, 17) (by decide) [9, 5, 1] rfl
  refine ⟨rfl, (halike _).2 (by unfold AgreeTo; decide), fun hsame => ?_,
    (hrefused _ _).2 ⟨.inr ⟨7, rfl, by decide⟩, rfl⟩⟩
  have hagree := (halike _).1 hsame
  exact absurd (hagree 2 (by decide)) (by decide)

end PoolWatch.Instruction
