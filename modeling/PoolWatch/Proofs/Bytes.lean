import PoolWatch.Bytes

/-! # Words that were written

    A number that was written at some place is read there again.  Fewer bytes
    may be read than were written; what is read then is the low part of the
    number. -/

namespace PoolWatch

/-- The first bytes of a written number are those of a narrower one. -/
theorem take_leOfNat {m width : Nat} (h : m ≤ width) (n : Nat) :
    (leOfNat width n).take m = leOfNat m n := by
  induction m generalizing width n with
  | zero => rfl
  | succ m ih =>
    obtain ⟨width, rfl⟩ := Nat.exists_eq_add_of_le' h
    show (UInt8.ofNat n :: leOfNat (width + m) (n / 256)).take (m + 1) =
      UInt8.ofNat n :: leOfNat m (n / 256)
    rw [List.take_succ_cons, ih (Nat.le_add_left m width)]

/-- A window on a written number holds its low bytes. -/
theorem window_leOfNat {m width : Nat} (h : m ≤ width) (before after : Bytes) (n : Nat) :
    window (before ++ leOfNat width n ++ after) before.length m = leOfNat m n := by
  have hlength : m ≤ (leOfNat width n).length := by rwa [length_leOfNat]
  have hgot : ((before ++ leOfNat width n ++ after).drop before.length).take m = leOfNat m n := by
    rw [List.append_assoc, List.drop_left, List.take_append_of_le_length hlength, take_leOfNat h]
  unfold window
  dsimp only
  rw [hgot, length_leOfNat, Nat.sub_self]
  exact List.append_nil _

section Words

variable {width : Nat} (before after : Bytes) (n : Nat)

/-- A 32-bit word that is read where at least as much was written. -/
theorem word32At_leOfNat (h : 4 ≤ width) :
    word32At (before ++ leOfNat width n ++ after) before.length = UInt32.ofNat n := by
  unfold word32At
  rw [window_leOfNat h, natOfLE_leOfNat, span_four]
  apply UInt32.toNat_inj.1
  rw [UInt32.toNat_ofNat', UInt32.toNat_ofNat']
  exact Nat.mod_mod n _

theorem word64At_leOfNat (h : 8 ≤ width) :
    word64At (before ++ leOfNat width n ++ after) before.length = UInt64.ofNat n := by
  unfold word64At
  rw [window_leOfNat h, natOfLE_leOfNat, span_eight]
  apply UInt64.toNat_inj.1
  rw [UInt64.toNat_ofNat', UInt64.toNat_ofNat']
  exact Nat.mod_mod n _

end Words

/-! ## Words that are written back -/

/-- Where there is enough data, a window is a piece of it. -/
theorem window_eq_take {data : Bytes} {pos width : Nat} (h : pos + width ≤ data.length) :
    window data pos width = (data.drop pos).take width := by
  have hgot : ((data.drop pos).take width).length = width := by
    rw [List.length_take, List.length_drop]
    omega
  unfold window
  dsimp only
  rw [hgot, Nat.sub_self]
  exact List.append_nil _

/-- A word that was read is written as it stood there. -/
theorem leOfWord32_word32At (data : Bytes) (pos : Nat) :
    leOfWord32 (word32At data pos) = window data pos 4 := by
  have hlt := natOfLE_lt (window data pos 4)
  rw [length_window, span_four] at hlt
  have hback := leOfNat_natOfLE (window data pos 4)
  rw [length_window] at hback
  unfold leOfWord32 word32At
  rw [UInt32.toNat_ofNat', Nat.mod_eq_of_lt (by omega), hback]

theorem leOfWord64_word64At (data : Bytes) (pos : Nat) :
    leOfWord64 (word64At data pos) = window data pos 8 := by
  have hlt := natOfLE_lt (window data pos 8)
  rw [length_window, span_eight] at hlt
  have hback := leOfNat_natOfLE (window data pos 8)
  rw [length_window] at hback
  unfold leOfWord64 word64At
  rw [UInt64.toNat_ofNat', Nat.mod_eq_of_lt (by omega), hback]

theorem leOfWord32_inj {v w : UInt32} : leOfWord32 v = leOfWord32 w ↔ v = w := by
  constructor
  · intro h
    have hv := word32At_leOfNat [] [] v.toNat (Nat.le_refl 4)
    have hw := word32At_leOfNat [] [] w.toNat (Nat.le_refl 4)
    rw [UInt32.ofNat_toNat] at hv hw
    have hbytes : leOfNat 4 v.toNat = leOfNat 4 w.toNat := h
    rw [← hv, ← hw, hbytes]
  · rintro rfl
    rfl

/-- A word is what its bytes say. -/
theorem word32At_eq_iff {data : Bytes} (h : 4 ≤ data.length) (w : UInt32) :
    word32At data 0 = w ↔ data.take 4 = leOfWord32 w := by
  rw [← leOfWord32_inj, leOfWord32_word32At, window_eq_take (by omega), List.drop_zero]

/-- The first byte of a word counts for least. -/
theorem toNat_word32At_zero (b : UInt8) (rest : Bytes) :
    (word32At (b :: rest) 0).toNat % 256 = b.toNat := by
  have hb := b.toNat_lt
  have hwindow : ∃ more, window (b :: rest) 0 4 = b :: more := by
    unfold window
    exact ⟨_, rfl⟩
  obtain ⟨more, hmore⟩ := hwindow
  unfold word32At
  rw [hmore, UInt32.toNat_ofNat', natOfLE]
  omega

/-! ## Zeros past the end -/

/-- Two byte strings have the same bytes up to an offset; bytes past the end
    count as zero. -/
def AgreeTo (n : Nat) (data data' : Bytes) : Prop :=
  ∀ i < n, data.getD i 0 = data'.getD i 0

theorem window_eq_map (data : Bytes) (pos width : Nat) :
    window data pos width = (List.range width).map fun i => data.getD (pos + i) 0 := by
  apply List.ext_getElem
  · rw [length_window, List.length_map, List.length_range]
  · intro i hi _
    rw [length_window] at hi
    rw [List.getElem_map, List.getElem_range]
    simp only [window, List.getElem_append, List.length_take, List.length_drop,
      List.getElem_take, List.getElem_drop, List.getElem_replicate, List.getD_eq_getElem?_getD]
    split
    · next hin =>
      have hlt : pos + i < data.length := by omega
      rw [List.getElem?_eq_getElem hlt, Option.getD_some]
    · next hout =>
      have hpast : data.length ≤ pos + i := by omega
      rw [List.getElem?_eq_none hpast, Option.getD_none]

theorem window_add (data : Bytes) (pos m n : Nat) :
    window data pos (m + n) = window data pos m ++ window data (pos + m) n := by
  rw [window_eq_map, window_eq_map, window_eq_map, List.range_add, List.map_append, List.map_map]
  simp only [Function.comp_def, Nat.add_assoc]

theorem window_succ (b : UInt8) (data : Bytes) (width : Nat) :
    window (b :: data) 0 (width + 1) = b :: window data 0 width := by
  rw [window_eq_map, window_eq_map, List.range_succ_eq_map, List.map_cons, List.map_map]
  simp [Function.comp_def]

theorem agreeTo_iff {n : Nat} {data data' : Bytes} :
    AgreeTo n data data' ↔ window data 0 n = window data' 0 n := by
  rw [window_eq_map, window_eq_map, List.map_inj_left]
  simp [AgreeTo]

theorem AgreeTo.window_eq {n pos width : Nat} {data data' : Bytes} (h : AgreeTo n data data')
    (hle : pos + width ≤ n) : window data pos width = window data' pos width := by
  rw [window_eq_map, window_eq_map]
  refine List.map_congr_left fun i hi => h _ ?_
  have hlt := List.mem_range.1 hi
  omega

theorem AgreeTo.word64At_eq {n pos : Nat} {data data' : Bytes} (h : AgreeTo n data data')
    (hle : pos + 8 ≤ n) : word64At data pos = word64At data' pos := by
  unfold word64At
  rw [h.window_eq hle]

theorem AgreeTo.word32At_eq {n pos : Nat} {data data' : Bytes} (h : AgreeTo n data data')
    (hle : pos + 4 ≤ n) : word32At data pos = word32At data' pos := by
  unfold word32At
  rw [h.window_eq hle]

/-- Behind a first byte that is the same, one byte less is compared. -/
theorem AgreeTo.tail {n : Nat} {b b' : UInt8} {data data' : Bytes}
    (h : AgreeTo (n + 1) (b :: data) (b' :: data')) : AgreeTo n data data' :=
  fun i hi => h (i + 1) (Nat.succ_lt_succ hi)

end PoolWatch
