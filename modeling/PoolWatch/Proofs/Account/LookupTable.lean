import PoolWatch.Account.LookupTable
import PoolWatch.Proofs.Bytes

/-! # The bytes of a lookup table

    The head of a table has no fixed length: with an authority it takes 54
    bytes, without one 22.  Still the addresses stand at a fixed place, so
    the data of a table is its head, some bytes that fill it up to 56, and
    its addresses (`decode_eq_ok_iff`).  Whatever fills the head is passed
    over in reading and is zeros in writing; nothing else is free.

    `decode_exact` tells from the bytes alone which data is read and which
    is refused, and what becomes of data that is read and written again. -/

namespace PoolWatch

/-- The key at the front of some data that starts with its bytes. -/
theorem Key.ofWindow_append (k : Key) (rest : Bytes) : Key.ofWindow (k.bytes ++ rest) 0 = k := by
  have hsize := k.size
  apply Key.ext_bytes
  show window (k.bytes ++ rest) 0 32 = k.bytes
  rw [window_eq_take (by rw [List.length_append]; omega), List.drop_zero, ← hsize, List.take_left]

namespace Account.LookupTable

/-! ## Addresses -/

theorem length_flatMap_bytes (keys : List Key) :
    (keys.flatMap Key.bytes).length = 32 * keys.length := by
  induction keys with
  | nil => rfl
  | cons k keys ih =>
    have hsize := k.size
    rw [List.flatMap_cons, List.length_append, ih, List.length_cons]
    omega

theorem addressesOf_flatMap (keys : List Key) :
    addressesOf keys.length (keys.flatMap Key.bytes) = keys := by
  induction keys with
  | nil => rfl
  | cons k keys ih =>
    have hsize := k.size
    rw [List.flatMap_cons, List.length_cons, addressesOf, Key.ofWindow_append, ← hsize,
      List.drop_left, ih]

/-- Addresses that were read are written as they stood there. -/
theorem flatMap_addressesOf (count : Nat) {data : Bytes} (h : data.length = 32 * count) :
    (addressesOf count data).flatMap Key.bytes = data := by
  induction count generalizing data with
  | zero =>
    have hnil : data = [] := List.length_eq_zero_iff.1 (by omega)
    rw [hnil]
    rfl
  | succ count ih =>
    have hrest : (data.drop 32).length = 32 * count := by
      rw [List.length_drop]
      omega
    have hfirst : (Key.ofWindow data 0).bytes = data.take 32 := by
      show window data 0 32 = data.take 32
      rw [window_eq_take (by omega), List.drop_zero]
    rw [addressesOf, List.flatMap_cons, hfirst, ih hrest, List.take_append_drop]

/-! ## Heads -/

/-- The bytes of a table's authority. -/
def authorityBytes : Option Key → Bytes
  | some k => 1 :: k.bytes
  | none => [0]

/-- The head in front of the authority. -/
def front (deactivated extended : UInt64) (start : UInt8) : Bytes :=
  leOfWord32 1 ++ leOfWord64 deactivated ++ leOfWord64 extended ++ [start]

theorem length_front (deactivated extended : UInt64) (start : UInt8) :
    (front deactivated extended start).length = 21 := by
  simp [front, leOfWord32, leOfWord64]

section Front

variable (deactivated extended : UInt64) (start : UInt8) (rest : Bytes)

theorem kind_front : word32At (front deactivated extended start ++ rest) 0 = 1 := by
  have hword := word32At_leOfNat []
    (leOfWord64 deactivated ++ leOfWord64 extended ++ [start] ++ rest) 1 (Nat.le_refl 4)
  simpa [front, leOfWord32] using hword

theorem deactivationSlot_front :
    word64At (front deactivated extended start ++ rest) 4 = deactivated := by
  have hword := word64At_leOfNat (leOfWord32 1) (leOfWord64 extended ++ [start] ++ rest)
    deactivated.toNat (Nat.le_refl 8)
  rw [UInt64.ofNat_toNat] at hword
  simpa [front, leOfWord64, leOfWord32] using hword

theorem lastExtendedSlot_front :
    word64At (front deactivated extended start ++ rest) 12 = extended := by
  have hword := word64At_leOfNat (leOfWord32 1 ++ leOfWord64 deactivated) ([start] ++ rest)
    extended.toNat (Nat.le_refl 8)
  rw [UInt64.ofNat_toNat] at hword
  simpa [front, leOfWord64, leOfWord32] using hword

theorem lastExtendedStart_front :
    (window (front deactivated extended start ++ rest) 20 1).headD 0 = start := by
  have hbefore : (leOfWord32 1 ++ leOfWord64 deactivated ++ leOfWord64 extended).length = 20 := by
    simp [leOfWord32, leOfWord64]
  have hdrop : (front deactivated extended start ++ rest).drop 20 = start :: rest := by
    unfold front
    rw [List.append_assoc, ← hbefore, List.drop_left]
    rfl
  unfold window
  rw [hdrop]
  rfl

theorem authorityOf?_front (authority : Option Key) :
    authorityOf? (front deactivated extended start ++ (authorityBytes authority ++ rest)) =
      some authority := by
  unfold authorityOf?
  rw [← length_front deactivated extended start, List.drop_left]
  cases authority with
  | none => rfl
  | some k =>
    show some (some (Key.ofWindow (k.bytes ++ rest) 0)) = some (some k)
    rw [Key.ofWindow_append]

end Front

theorem head_eq (t : LookupTable) :
    t.head = front t.deactivationSlot t.lastExtendedSlot t.lastExtendedStart ++
      authorityBytes t.authority := by
  unfold head front
  rw [List.append_assoc _ [_] _]
  cases t.authority <;> rfl

theorem length_head (t : LookupTable) :
    t.head.length = if t.authority.isSome then 54 else 22 := by
  rw [head_eq, List.length_append, length_front]
  cases t.authority with
  | none => rfl
  | some k =>
    have hsize := k.size
    show 21 + (k.bytes.length + 1) = 54
    omega

theorem length_head_le (t : LookupTable) : t.head.length ≤ headSize := by
  rw [length_head, headSize]
  split <;> omega

/-! ## Data that is read -/

/-- Data that stands for a table: a kind word of one, an authority that is
    there or not, and whole addresses behind a whole head. -/
structure IsTable (data : Bytes) : Prop where
  size : 56 ≤ data.length
  aligned : (data.length - 56) % 32 = 0
  kind : data.take 4 = [1, 0, 0, 0]
  authority : data[21]? = some 0 ∨ data[21]? = some 1

/-- The data of a table, its head filled up in some way. -/
def filled (t : LookupTable) (fill : Bytes) : Bytes :=
  t.head ++ fill ++ t.addresses.flatMap Key.bytes

section Filled

variable {t : LookupTable} {fill : Bytes} (hfill : t.head.length + fill.length = headSize)
include hfill

theorem length_filled : (filled t fill).length = headSize + 32 * t.addresses.length := by
  unfold filled
  rw [List.length_append, List.length_append, hfill, length_flatMap_bytes]

theorem drop_filled : (filled t fill).drop headSize = t.addresses.flatMap Key.bytes := by
  have hhead : (t.head ++ fill).length = headSize := by rw [List.length_append, hfill]
  unfold filled
  rw [← hhead, List.drop_left]

omit hfill in
theorem filled_eq_front (t : LookupTable) (fill : Bytes) :
    ∃ rest, filled t fill = front t.deactivationSlot t.lastExtendedSlot t.lastExtendedStart ++
      (authorityBytes t.authority ++ rest) := by
  refine ⟨fill ++ t.addresses.flatMap Key.bytes, ?_⟩
  unfold filled
  rw [head_eq, List.append_assoc, List.append_assoc]

/-- A table is read from its data, however its head is filled up. -/
theorem decode_filled : decode (filled t fill) = .ok t := by
  have hlength := length_filled hfill
  have htail := length_flatMap_bytes t.addresses
  have hcount : 32 * t.addresses.length / 32 = t.addresses.length := by omega
  -- the addresses are looked for at their fixed place, all else from the front
  unfold decode
  dsimp only
  rw [drop_filled hfill, htail, hcount, addressesOf_flatMap]
  obtain ⟨rest, hdata⟩ := filled_eq_front t fill
  rw [hdata] at hlength ⊢
  rw [kind_front, deactivationSlot_front, lastExtendedSlot_front, lastExtendedStart_front,
    authorityOf?_front, hlength]
  have hlong : ¬ headSize + 32 * t.addresses.length < 4 := by
    rw [headSize]
    omega
  have hwhole : ¬ ((1 : UInt32) ≠ 1 ∨ headSize + 32 * t.addresses.length < headSize ∨
      32 * t.addresses.length % 32 ≠ 0) := by
    rintro (hkind | hshort | hcut)
    · exact hkind rfl
    · omega
    · omega
  rw [if_neg hlong, if_neg (by decide), if_neg hwhole]

end Filled

section Read

variable {data : Bytes}

/-- The bytes in front of the authority write what is read from them. -/
theorem take_eq_front (h : IsTable data) :
    data.take 21 =
      front (word64At data 4) (word64At data 12) ((window data 20 1).headD 0) := by
  have hsize : 56 ≤ data.length := h.size
  have hkind : data.take 4 = leOfWord32 1 := h.kind
  have hdeactivated : (data.drop 4).take 8 = leOfWord64 (word64At data 4) := by
    rw [leOfWord64_word64At, window_eq_take (by omega)]
  have hextended : (data.drop 12).take 8 = leOfWord64 (word64At data 12) := by
    rw [leOfWord64_word64At, window_eq_take (by omega)]
  have hstart : (data.drop 20).take 1 = [(window data 20 1).headD 0] := by
    obtain ⟨b, hb⟩ := List.length_eq_one_iff.1 (length_window data 20 1)
    rw [← window_eq_take (by omega), hb]
    rfl
  calc data.take 21
      = data.take 4 ++ (data.drop 4).take 8 ++ (data.drop 12).take 8 ++
          (data.drop 20).take 1 := by
        rw [show 21 = 20 + 1 from rfl, List.take_add, show 20 = 12 + 8 from rfl, List.take_add,
          show 12 = 4 + 8 from rfl, List.take_add]
    _ = front (word64At data 4) (word64At data 12) ((window data 20 1).headD 0) := by
        rw [hkind, hdeactivated, hextended, hstart]
        rfl

/-- Behind them stands an authority, within the head. -/
theorem exists_authority (h : IsTable data) :
    ∃ authority more, data.drop 21 = authorityBytes authority ++ more ∧
      (authorityBytes authority).length ≤ 35 := by
  have hsize : 56 ≤ data.length := h.size
  have hlong : 21 < data.length := by omega
  have hdrop : data.drop 21 = data[21] :: data.drop 22 := List.drop_eq_getElem_cons hlong
  rcases h.authority with hnone | hsome
  · have hbyte : data[21] = 0 := List.getElem_eq_iff hlong |>.2 hnone
    refine ⟨none, data.drop 22, ?_, by decide⟩
    rw [hdrop, hbyte]
    rfl
  · have hbyte : data[21] = 1 := List.getElem_eq_iff hlong |>.2 hsome
    have hkey : (Key.ofWindow (data.drop 22) 0).bytes = (data.drop 22).take 32 := by
      show window (data.drop 22) 0 32 = (data.drop 22).take 32
      rw [window_eq_take (by rw [List.length_drop]; omega), List.drop_zero]
    refine ⟨some (Key.ofWindow (data.drop 22) 0), (data.drop 22).drop 32, ?_, ?_⟩
    · show data.drop 21 = 1 :: (Key.ofWindow (data.drop 22) 0).bytes ++ (data.drop 22).drop 32
      rw [hdrop, hbyte, hkey, List.cons_append, List.take_append_drop]
    · show (Key.ofWindow (data.drop 22) 0).bytes.length + 1 ≤ 35
      rw [(Key.ofWindow (data.drop 22) 0).size]
      omega

/-- Data that stands for a table is the data of one. -/
theorem exists_filled (h : IsTable data) :
    ∃ t fill, t.head.length + fill.length = headSize ∧ data = filled t fill := by
  have hsize : 56 ≤ data.length := h.size
  obtain ⟨authority, more, hmore, hshort⟩ := exists_authority h
  have htailLength : (data.drop 56).length = 32 * ((data.drop 56).length / 32) := by
    have haligned : (data.length - 56) % 32 = 0 := h.aligned
    rw [List.length_drop]
    omega
  let t : LookupTable :=
    ⟨word64At data 4, word64At data 12, (window data 20 1).headD 0, authority,
      addressesOf ((data.drop 56).length / 32) (data.drop 56)⟩
  have hhead : t.head = data.take 21 ++ authorityBytes authority := by
    rw [head_eq, take_eq_front h]
  have haddresses : t.addresses.flatMap Key.bytes = data.drop 56 :=
    flatMap_addressesOf _ htailLength
  -- what is left of the head once the authority was read
  have hmoreLength : (data.drop 21).length = (authorityBytes authority).length + more.length := by
    rw [hmore, List.length_append]
  rw [List.length_drop] at hmoreLength
  have hrest : more.drop (35 - (authorityBytes authority).length) = data.drop 56 := by
    have hdrop := congrArg (List.drop 35) hmore
    rw [List.drop_drop, List.drop_append, List.drop_of_length_le hshort] at hdrop
    exact hdrop.symm
  refine ⟨t, more.take (35 - (authorityBytes authority).length), ?_, ?_⟩
  · rw [hhead, List.length_append, List.length_take, List.length_take, headSize]
    omega
  · unfold filled
    rw [hhead, haddresses, ← hrest, List.append_assoc, List.append_assoc, List.take_append_drop,
      ← hmore, List.take_append_drop]

end Read

/-! ## Reading -/

section Reading

variable {data : Bytes} {t : LookupTable}

/-- Data that was read stands for a table. -/
theorem isTable_of_decode (h : decode data = .ok t) : IsTable data := by
  unfold decode at h
  dsimp only at h
  split at h
  · cases h
  · next hlong =>
    split at h
    · cases h
    · split at h
      · cases h
      · next hwhole =>
        simp only [not_or, Decidable.not_not] at hwhole
        obtain ⟨hkind, hsize, haligned⟩ := hwhole
        rw [List.length_drop] at haligned
        have hsize' : 56 ≤ data.length := Nat.le_of_not_lt hsize
        have hlong' : 21 < data.length := by omega
        refine ⟨hsize', haligned, (word32At_eq_iff (Nat.le_of_not_lt hlong) 1).1 hkind, ?_⟩
        cases hauthority : authorityOf? data with
        | none =>
          rw [hauthority] at h
          cases h
        | some authority =>
          -- the byte in front of the authority is one of the two tags
          unfold authorityOf? at hauthority
          rw [List.drop_eq_getElem_cons hlong'] at hauthority
          rw [List.getElem?_eq_getElem hlong']
          split at hauthority
          · next hbyte => exact .inl (congrArg some (List.cons.inj hbyte).1)
          · next hbyte => exact .inr (congrArg some (List.cons.inj hbyte).1)
          · cases hauthority

/-- The data that is read as a table is that table's, filled up in some way. -/
theorem decode_eq_ok_iff : decode data = .ok t ↔
    ∃ fill, t.head.length + fill.length = headSize ∧ data = filled t fill := by
  constructor
  · intro h
    obtain ⟨t', fill, hfill, rfl⟩ := exists_filled (isTable_of_decode h)
    obtain rfl : t' = t := Except.ok.inj ((decode_filled hfill).symm.trans h)
    exact ⟨fill, hfill, rfl⟩
  · rintro ⟨fill, hfill, rfl⟩
    exact decode_filled hfill

/-- The filling that is written is zeros. -/
theorem encode_eq_filled (t : LookupTable) :
    t.encode = filled t (List.replicate (headSize - t.head.length) 0) := rfl

theorem fill_encode (t : LookupTable) :
    t.head.length + (List.replicate (headSize - t.head.length) (0 : UInt8)).length = headSize := by
  have hle := length_head_le t
  rw [List.length_replicate]
  omega

/-- Two fillings of the same table differ in the filling only. -/
theorem getElem?_filled {fill fill' : Bytes} (hfill : t.head.length + fill.length = headSize)
    (hfill' : t.head.length + fill'.length = headSize) {i : Nat}
    (hi : i < t.head.length ∨ headSize ≤ i) : (filled t fill')[i]? = (filled t fill)[i]? := by
  unfold filled
  rcases hi with hi | hi
  · rw [List.append_assoc, List.append_assoc, List.getElem?_append_left hi,
      List.getElem?_append_left hi]
  · have hlength : (t.head ++ fill).length = headSize := by rw [List.length_append, hfill]
    have hlength' : (t.head ++ fill').length = headSize := by rw [List.length_append, hfill']
    rw [List.getElem?_append_right (by omega), List.getElem?_append_right (by omega), hlength,
      hlength']

/-- A refusal tells an account that was never set up from everything else. -/
theorem decode_eq_error {e : DecodeError} (h : decode data = .error e) :
    e = if data.take 4 = [0, 0, 0, 0] then .tableUninitialized else .tableInvalid := by
  unfold decode at h
  dsimp only at h
  split at h
  · next hshort =>
    have hne : data.take 4 ≠ [0, 0, 0, 0] := by
      intro hkind
      have hlength := congrArg List.length hkind
      rw [List.length_take] at hlength
      have hfour : [(0 : UInt8), 0, 0, 0].length = 4 := rfl
      omega
    rw [if_neg hne]
    exact (Except.error.inj h).symm
  · next hlong =>
    have hzero : word32At data 0 = 0 ↔ data.take 4 = [0, 0, 0, 0] :=
      word32At_eq_iff (Nat.le_of_not_lt hlong) 0
    split at h
    · next hkind =>
      rw [if_pos (hzero.1 hkind)]
      exact (Except.error.inj h).symm
    · next hkind =>
      rw [if_neg fun hbytes => hkind (hzero.2 hbytes)]
      split at h
      · exact (Except.error.inj h).symm
      · split at h
        · exact (Except.error.inj h).symm
        · cases h

end Reading

/-- A table is read back as it was written.  Data is read exactly when it
    stands for a table, which its bytes tell.  What was read is written as it
    stood there, but for the rest of the head behind what the head says, 54
    bytes with an authority and 22 without, and then reads as the same table.
    All other data is refused: as never set up when its kind word is zero,
    else as invalid. -/
theorem decode_exact :
    (∀ t : LookupTable, decode t.encode = .ok t) ∧
    (∀ data, (∃ t, decode data = .ok t) ↔ IsTable data) ∧
    (∀ data t, decode data = .ok t →
      decode t.encode = .ok t ∧ t.encode.length = data.length ∧
      ∀ i, i < (if t.authority.isSome then 54 else 22) ∨ 56 ≤ i → t.encode[i]? = data[i]?) ∧
    (∀ data, ¬ IsTable data → decode data =
      .error (if data.take 4 = [0, 0, 0, 0] then .tableUninitialized else .tableInvalid)) := by
  have hback : ∀ t : LookupTable, decode t.encode = .ok t := fun t => decode_filled (fill_encode t)
  refine ⟨hback, ?_, ?_, ?_⟩
  · intro data
    constructor
    · rintro ⟨t, h⟩
      exact isTable_of_decode h
    · intro h
      obtain ⟨t, fill, hfill, rfl⟩ := exists_filled h
      exact ⟨t, decode_filled hfill⟩
  · intro data t h
    obtain ⟨fill, hfill, rfl⟩ := decode_eq_ok_iff.1 h
    refine ⟨hback t, ?_, ?_⟩
    · rw [encode_eq_filled, length_filled (fill_encode t), length_filled hfill]
    · intro i hi
      rw [← length_head] at hi
      exact getElem?_filled hfill (fill_encode t) hi
  · intro data hnot
    cases h : decode data with
    | ok t => exact absurd (isTable_of_decode h) hnot
    | error e => rw [decode_eq_error h]

end Account.LookupTable

end PoolWatch
