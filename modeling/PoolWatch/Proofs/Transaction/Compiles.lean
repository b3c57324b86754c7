import PoolWatch.Proofs.Transaction.Numbers
import PoolWatch.Proofs.Transaction.Calls
import Mathlib.Data.List.Perm.Subperm

/-! # When calls compile

    Compiling few calls can fail in one way only: a key that a table may take
    over stands first at an index of the table that is no byte.  No key is
    lost on the way, so every key of a call has a number, and none is
    counted twice, so there are enough numbers. -/

namespace PoolWatch

namespace Message

variable {us : List Use}

/-! ## Tables -/

/-- The keys that a table may be asked for stand at indexes that are bytes. -/
def Addressable (addresses : List Key) (us : List Use) : Prop :=
  ∀ u ∈ us, u.isSigner = false → u.isInvoked = false →
    ∀ i, addresses.idxOf? u.key = some i → i < 256

/-- A table of at most 256 addresses has no other indexes. -/
theorem addressable_of_length {addresses : List Key} (h : addresses.length ≤ 256)
    (us : List Use) : Addressable addresses us := by
  intro u _ _ _ i hi
  obtain ⟨hlt, -⟩ := List.idxOf?_eq_some_iff.1 hi
  exact Nat.lt_of_lt_of_le hlt h

theorem exists_drain {addresses keys : List Key}
    (h : ∀ key ∈ keys, ∀ i, addresses.idxOf? key = some i → i < 256) :
    ∃ taken, drain addresses keys = .ok taken ∧ (taken.map (·.1)).Sublist keys := by
  induction keys with
  | nil => exact ⟨[], rfl, .slnil⟩
  | cons key rest ih =>
    obtain ⟨taken, htaken, hsub⟩ := ih fun k hk => h k (List.mem_cons_of_mem _ hk)
    unfold drain tableIndex?
    rw [htaken]
    cases hindex : addresses.idxOf? key with
    | none => exact ⟨taken, rfl, hsub.cons key⟩
    | some i =>
      have hlt := h key (List.mem_cons_self ..) i hindex
      dsimp only
      rw [if_pos hlt]
      exact ⟨(key, UInt8.ofNat i) :: taken, rfl, hsub.cons_cons key⟩

/-- One key at an index that is no byte fails all of them. -/
theorem drain_eq_error {addresses keys : List Key} {key : Key} {i : Nat} (hkey : key ∈ keys)
    (hi : addresses.idxOf? key = some i) (hle : 256 ≤ i) :
    drain addresses keys = .error .tableIndexOverflow := by
  induction keys with
  | nil => cases hkey
  | cons first rest ih =>
    unfold drain
    by_cases hfirst : ∃ j, addresses.idxOf? first = some j ∧ 256 ≤ j
    · obtain ⟨j, hj, hlarge⟩ := hfirst
      simp [tableIndex?, hj, Nat.not_lt.2 hlarge]
    · -- the key is among the rest, whose failure is told once the first one is found
      have hne : key ≠ first := by
        rintro rfl
        exact hfirst ⟨i, hi, hle⟩
      have hrest := ih ((List.mem_cons.1 hkey).resolve_left hne)
      have hfound : ∃ found, tableIndex? addresses first = .ok found := by
        unfold tableIndex?
        cases hj : addresses.idxOf? first with
        | none => exact ⟨none, rfl⟩
        | some j =>
          have hsmall : j < 256 := Nat.not_le.1 fun hlarge => hfirst ⟨j, hj, hlarge⟩
          exact ⟨some (UInt8.ofNat j), if_pos hsmall⟩
      obtain ⟨found, hfound⟩ := hfound
      rw [hfound, hrest]

/-- Such a table can take keys over, each of them once. -/
theorem exists_drainTable {table : TableAccount} (h : Addressable table.addresses us)
    (hnodup : (us.map Use.key).Nodup) :
    ∃ d, drainTable table us = .ok d ∧ (d.all.map (·.1)).Nodup := by
  have hkeys : ∀ isWritable, ∀ key ∈ drainable isWritable us,
      ∀ i, table.addresses.idxOf? key = some i → i < 256 := by
    intro isWritable key hkey
    obtain ⟨u, hu, rfl, hsigner, hinvoked, -⟩ := mem_drainable hkey
    exact h u hu hsigner hinvoked
  obtain ⟨writable, hwritable, hsub⟩ := exists_drain (hkeys true)
  obtain ⟨readonly, hreadonly, hsub'⟩ := exists_drain (hkeys false)
  refine ⟨⟨writable, readonly⟩, ?_, ?_⟩
  · unfold drainTable
    rw [hwritable, hreadonly]
  -- each part takes a key once, because the uses name it once
  have hdrainable : ∀ isWritable, (drainable isWritable us).Nodup := fun isWritable =>
    hnodup.sublist (List.filter_sublist.map _)
  rw [Drained.all, List.map_append, List.nodup_append]
  refine ⟨(hdrainable true).sublist hsub, (hdrainable false).sublist hsub', ?_⟩
  -- a key that both parts take would be used in two ways
  rintro key hkey _ hkey' rfl
  obtain ⟨u, hu, rfl, -, -, hu'⟩ := mem_drainable (hsub.subset hkey)
  obtain ⟨v, hv, hkeys, -, -, hv'⟩ := mem_drainable (hsub'.subset hkey')
  obtain rfl := List.inj_on_of_nodup_map hnodup hv hu hkeys
  rw [hu'] at hv'
  cases hv'

/-- A table that is asked for a key at an index that is no byte fails. -/
theorem drainTable_eq_error {table : TableAccount} (h : ¬ Addressable table.addresses us) :
    drainTable table us = .error .tableIndexOverflow := by
  unfold Addressable at h
  push Not at h
  obtain ⟨u, hu, hsigner, hinvoked, i, hi, hle⟩ := h
  have hmem : u.key ∈ drainable u.isWritable us :=
    List.mem_map.2 ⟨u, List.mem_filter.2 ⟨hu, by simp [hsigner, hinvoked]⟩, rfl⟩
  have hlarge : 256 ≤ i := by omega
  have hdrain := drain_eq_error hmem hi hlarge
  unfold drainTable
  cases hwritable : u.isWritable with
  | true =>
    rw [hwritable] at hdrain
    rw [hdrain]
  | false =>
    rw [hwritable] at hdrain
    -- the writable keys come first, and may have failed already
    by_cases hall : ∀ key ∈ drainable true us, ∀ j, table.addresses.idxOf? key = some j → j < 256
    · obtain ⟨taken, htaken, -⟩ := exists_drain hall
      rw [htaken, hdrain]
    · push Not at hall
      obtain ⟨key, hkey, j, hj, hle'⟩ := hall
      have hlarge' : 256 ≤ j := by omega
      rw [drain_eq_error hkey hj hlarge']

theorem holds_iff {d : Drained} {key : Key} : d.holds key = true ↔ key ∈ d.all.map (·.1) := by
  unfold Drained.holds Drained.all
  simp only [List.any_eq_true, decide_eq_true_eq, List.mem_map]

/-- A table takes over no more keys than it takes away. -/
theorem length_all_le {table : TableAccount} {d : Drained} (h : drainTable table us = .ok d)
    (hnodup : (d.all.map (·.1)).Nodup) :
    (us.filter fun u => !d.holds u.key).length + d.all.length ≤ us.length := by
  -- what is taken over is among the uses that are taken away, each key once
  have hsubset : d.all.map (·.1) ⊆ (us.filter fun u => d.holds u.key).map Use.key := by
    intro key hkey
    obtain ⟨entry, hentry, rfl⟩ := List.mem_map.1 hkey
    obtain ⟨⟨u, hu, hukey, -⟩, -⟩ := spec_drainTable h entry hentry
    refine List.mem_map.2 ⟨u, List.mem_filter.2 ⟨hu, ?_⟩, hukey⟩
    rw [hukey]
    exact holds_iff.2 hkey
  have hle := (hnodup.subperm hsubset).length_le
  have hsum := List.length_eq_length_filter_add (l := us) fun u => d.holds u.key
  simp only [List.length_map] at hle
  omega

/-- With one table or none, no key is lost and none is counted twice. -/
theorem exists_drainTables {table : Option TableAccount}
    (h : ∀ t ∈ table, Addressable t.addresses us) (hnodup : (us.map Use.key).Nodup) :
    ∃ drained left, drainTables table.toList us = .ok (drained, left) ∧ drained.length ≤ 1 ∧
      (∀ u ∈ us, u ∈ left ∨ u.key ∈ takenKeys drained) ∧
      left.length + (takenKeys drained).length ≤ us.length := by
  cases table with
  | none => exact ⟨[], us, rfl, by simp, fun u hu => .inl hu, by simp [takenKeys]⟩
  | some t =>
    obtain ⟨d, hd, hdnodup⟩ := exists_drainTable (h t rfl) hnodup
    have hlength := length_all_le hd hdnodup
    have hkept : ∀ u ∈ us, u ∈ us.filter (fun u => !d.holds u.key) ∨
        u.key ∈ d.all.map (·.1) := by
      intro u hu
      cases hholds : d.holds u.key with
      | true => exact .inr (holds_iff.1 hholds)
      | false => exact .inl (List.mem_filter.2 ⟨hu, by rw [hholds]; rfl⟩)
    have hrun : drainTables (some t).toList us =
        if d.writable.isEmpty && d.readonly.isEmpty then
          .ok ([], us.filter fun u => !d.holds u.key)
        else .ok ([(t, d)], us.filter fun u => !d.holds u.key) := by
      show drainTables [t] us = _
      unfold drainTables
      rw [hd]
      rfl
    rw [hrun]
    by_cases hempty : (d.writable.isEmpty && d.readonly.isEmpty) = true
    · rw [if_pos hempty]
      simp only [Bool.and_eq_true, List.isEmpty_iff] at hempty
      have hall : d.all = [] := by rw [Drained.all, hempty.1, hempty.2]; rfl
      rw [hall] at hkept
      have hleft : ∀ u ∈ us, u ∈ us.filter fun u => !d.holds u.key := fun u hu =>
        (hkept u hu).resolve_right List.not_mem_nil
      exact ⟨[], _, rfl, by simp, fun u hu => .inl (hleft u hu),
        by simpa [takenKeys, hall] using hlength⟩
    · rw [if_neg hempty]
      exact ⟨_, _, rfl, by simp, fun u hu => by simpa [takenKeys] using hkept u hu,
        by simpa [takenKeys] using hlength⟩

/-! ## Numbers -/

theorem exists_mapAll {α β ε : Type} {f : α → Except ε β} {as : List α}
    (h : ∀ a ∈ as, ∃ b, f a = .ok b) : ∃ bs, mapAll f as = .ok bs := by
  induction as with
  | nil => exact ⟨[], rfl⟩
  | cons a rest ih =>
    obtain ⟨b, hb⟩ := h a (List.mem_cons_self ..)
    obtain ⟨bs, hbs⟩ := ih fun a' ha' => h a' (List.mem_cons_of_mem _ ha')
    unfold mapAll
    rw [hb, hbs]
    exact ⟨_, rfl⟩

theorem byte?_of_lt {n : Nat} (h : n < 256) : byte? n = .ok (UInt8.ofNat n) :=
  if_pos h

/-- Each of few keys has a number. -/
theorem exists_number? {keys : List Key} {key : Key} (hmem : key ∈ keys)
    (hlength : keys.length ≤ 256) : ∃ n, number? keys key = .ok n := by
  obtain ⟨i, hi⟩ := Option.isSome_iff_exists.1 (List.isSome_idxOf?.2 hmem)
  obtain ⟨hlt, -⟩ := List.idxOf?_eq_some_iff.1 hi
  unfold number?
  rw [hi]
  exact ⟨_, byte?_of_lt (Nat.lt_of_lt_of_le hlt hlength)⟩

theorem exists_compileCall {keys : List Key} {c : Call} (hlength : keys.length ≤ 256)
    (hprogram : c.program ∈ keys) (haccounts : ∀ a ∈ c.accounts, a.key ∈ keys) :
    ∃ ix, compileCall keys c = .ok ix := by
  obtain ⟨accounts, ha⟩ := exists_mapAll (f := fun a : AccountMeta => number? keys a.key)
    fun a ha => exists_number? (haccounts a ha) hlength
  obtain ⟨program, hp⟩ := exists_number? hprogram hlength
  unfold compileCall
  rw [ha, hp]
  exact ⟨_, rfl⟩

/-- The four kinds of static keys are all there are. -/
theorem length_kinds (us : List Use) :
    (keysOfKind true true us).length + (keysOfKind true false us).length +
      (keysOfKind false true us).length + (keysOfKind false false us).length = us.length := by
  induction us with
  | nil => rfl
  | cons u rest ih =>
    simp only [keysOfKind, List.length_map, List.filter_cons] at ih ⊢
    cases hs : u.isSigner <;> cases hw : u.isWritable <;> simp [*] at ih ⊢ <;> omega

theorem length_staticOf_le (payer : Key) (left : List Use) :
    (staticOf payer left).length ≤ left.length + 1 := by
  have hkinds := length_kinds (left.filter fun u => u.key ≠ payer)
  have hle := List.length_filter_le (fun u => decide (u.key ≠ payer)) left
  unfold staticOf
  simp only [List.cons_append, List.length_cons, List.length_append]
  omega

/-! ## Uses -/

theorem length_addUse_le (u : Use) (us : List Use) : (addUse u us).length ≤ us.length + 1 := by
  induction us with
  | nil => exact Nat.le_refl _
  | cons v rest ih =>
    unfold addUse
    split
    · exact Nat.le_succ _
    split
    · exact Nat.le_refl _
    · exact Nat.succ_le_succ ih

theorem length_addUses_le (added us : List Use) :
    (addUses added us).length ≤ us.length + added.length := by
  induction added generalizing us with
  | nil => exact Nat.le_refl _
  | cons u rest ih =>
    have hfirst := length_addUse_le u us
    have hrest := ih (addUse u us)
    simp only [addUses, List.foldl_cons, List.length_cons] at hrest ⊢
    omega

/-- There are no more uses than the calls have programs and accounts, and the payer. -/
theorem length_uses_le (payer : Key) (calls : List Call) :
    (uses payer calls).length ≤ (calls.flatMap usesOfCall).length + 1 := by
  rw [uses_eq]
  have hle := length_addUses_le
    (calls.flatMap usesOfCall ++ [Use.mk payer true true false]) []
  simpa using hle

/-- The use of a key covers whatever a call does with the key. -/
theorem covers_of_call {payer : Key} {calls : List Call} {c : Call} {u v : Use} (hc : c ∈ calls)
    (hu : u ∈ usesOfCall c) (hv : v ∈ uses payer calls) (hkey : v.key = u.key) : v.Covers u := by
  have hmem : u ∈ calls.flatMap usesOfCall := List.mem_flatMap.2 ⟨c, hc, hu⟩
  obtain ⟨w, hw, hcovers⟩ := covers_addUses_self (List.mem_append_left _ hmem) []
  -- no key is used twice
  obtain rfl : w = v :=
    List.inj_on_of_nodup_map (nodup_uses payer calls) hw hv (hcovers.key.trans hkey.symm)
  exact hcovers

theorem use_of_account {c : Call} {a : AccountMeta} (ha : a ∈ c.accounts) :
    Use.mk a.key a.isSigner a.isWritable false ∈ usesOfCall c :=
  List.mem_cons_of_mem _ (List.mem_map.2 ⟨a, ha, rfl⟩)

theorem used_account (payer : Key) {calls : List Call} {c : Call} {a : AccountMeta}
    (hc : c ∈ calls) (ha : a ∈ c.accounts) : ∃ v ∈ uses payer calls, v.key = a.key := by
  have hmem : Use.mk a.key a.isSigner a.isWritable false ∈ calls.flatMap usesOfCall :=
    List.mem_flatMap.2 ⟨c, hc, use_of_account ha⟩
  obtain ⟨v, hv, hcovers⟩ := covers_addUses_self (List.mem_append_left _ hmem) []
  exact ⟨v, hv, hcovers.key⟩

/-! ## Compiling -/

/-- Few calls compile, if the keys that the table may take over stand at
    indexes that are bytes. -/
theorem exists_compile {payer blockhash : Key} {calls : List Call} {table : Option TableAccount}
    (hcount : (calls.flatMap usesOfCall).length < 254)
    (htable : ∀ t ∈ table, Addressable t.addresses (uses payer calls)) :
    ∃ m, compile payer calls table.toList blockhash = .ok m := by
  obtain ⟨drained, left, hdrain, hone, hkept, hlength⟩ :=
    exists_drainTables htable (nodup_uses payer calls)
  have huses := length_uses_le payer calls
  have hstatic := length_staticOf_le payer left
  have hnumbered : (numbering (staticOf payer left) drained).length ≤ 256 := by
    rw [numbering_eq hone, List.length_append]
    omega
  -- static or taken over, every key that is used has a number
  have hmem : ∀ v ∈ uses payer calls, v.key ∈ numbering (staticOf payer left) drained := by
    intro v hv
    rw [numbering_eq hone]
    rcases hkept v hv with hleft | htaken
    · exact List.mem_append_left _ (mem_staticOf payer hleft)
    · exact List.mem_append_right _ htaken
  obtain ⟨instructions, hinstructions⟩ : ∃ instructions,
      mapAll (compileCall (numbering (staticOf payer left) drained)) calls = .ok instructions := by
    refine exists_mapAll fun c hc => exists_compileCall hnumbered ?_ fun a ha => ?_
    · obtain ⟨v, hv, hkey, -⟩ := invoked_uses payer hc
      exact hkey ▸ hmem v hv
    · obtain ⟨v, hv, hkey⟩ := used_account payer hc ha
      exact hkey ▸ hmem v hv
  unfold staticOf at hstatic hnumbered hinstructions
  simp only [List.cons_append, List.length_cons, List.length_append] at hstatic
  unfold compile
  rw [hdrain]
  dsimp only
  rw [byte?_of_lt (by simp only [List.length_cons]; omega), byte?_of_lt (by omega),
    byte?_of_lt (by omega)]
  dsimp only
  rw [if_neg (Nat.not_lt.2 hnumbered), hinstructions]
  exact ⟨_, rfl⟩

/-- Calls do not compile if a key that the table may take over stands at an
    index that is no byte. -/
theorem compile_eq_error {payer : Key} (blockhash : Key) {calls : List Call} {t : TableAccount}
    (h : ¬ Addressable t.addresses (uses payer calls)) :
    compile payer calls [t] blockhash = .error .tableIndexOverflow := by
  have hdrain : drainTables [t] (uses payer calls) = .error .tableIndexOverflow := by
    unfold drainTables
    rw [drainTable_eq_error h]
  unfold compile
  rw [hdrain]

end Message

/-! ## Swaps -/

namespace Swap

variable {payer native : Key} {options : SwapOptions} {order : SwapOrder} {channel : Channel}

theorem length_uses_aside {cs : List Call} (h : ∀ c ∈ cs, IsAside c) :
    (cs.flatMap Message.usesOfCall).length ≤ 7 * cs.length := by
  induction cs with
  | nil => exact Nat.le_refl _
  | cons c rest ih =>
    have hc := (h c (List.mem_cons_self ..)).accounts
    have hrest := ih fun c' hc' => h c' (List.mem_cons_of_mem _ hc')
    simp only [List.flatMap_cons, List.length_append, List.length_cons, Message.usesOfCall,
      List.length_map]
    omega

/-- The calls of a swap name few programs and accounts. -/
theorem length_uses_calls {calls : List Call}
    (h : Swap.calls payer native options order channel = .ok calls) :
    (calls.flatMap Message.usesOfCall).length < 254 := by
  obtain ⟨mint, nativeIsBase, hmint⟩ := mint_of_calls h
  rw [calls_eq hmint] at h
  obtain rfl := Except.ok.inj h
  -- at most five calls beside the swap, with at most six accounts each
  have hopening := length_uses_aside fun c (hc : c ∈ opening payer mint order) => aside_opening hc
  have hclosing := length_uses_aside fun c (hc : c ∈ closing payer options channel) =>
    aside_closing hc
  have hopened : (opening payer mint order).length ≤ 3 := length_opening_le
  have hclosed : (closing payer options channel).length ≤ 2 := length_closing_le
  have htraded : (traded payer native mint order).accounts.length ≤ 18 :=
    length_swapBaseIn_le ..
  simp only [List.flatMap_append, List.flatMap_cons, List.length_append, Message.usesOfCall,
    List.length_cons, List.length_map]
  omega

/-- A swap of a native pool can be built, if the keys that the table may take
    over stand at indexes that are bytes. -/
theorem exists_message {blockhash : Key} {calls : List Call}
    (hcalls : Swap.calls payer native options order channel = .ok calls)
    (htable : ∀ t ∈ options.lookupTable,
      Message.Addressable t.addresses (Message.uses payer calls)) :
    ∃ m, message payer native options order channel blockhash = .ok m := by
  obtain ⟨m, hm⟩ := Message.exists_compile (length_uses_calls hcalls) htable
  refine ⟨m, ?_⟩
  unfold message
  rw [hcalls]
  dsimp only
  rw [hm]

end Swap

end PoolWatch
