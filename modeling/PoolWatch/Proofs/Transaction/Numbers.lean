import PoolWatch.Proofs.Transaction.Uses
import PoolWatch.Registry.Resolve
import Mathlib.Data.List.Forall2
import Mathlib.Data.List.Nodup

/-! # The numbers of a message

    In a compiled message every number stands for the key that was numbered:
    one of the static keys, or an entry of a table at whose index the table
    has that key.  Programs are always among the static keys, because no
    table takes over a key that is called. -/

namespace PoolWatch.Message

/-! ## Numbers -/

theorem getElem?_of_idxOf? {keys : List Key} {key : Key} {i : Nat} (h : keys.idxOf? key = some i) :
    keys[i]? = some key := by
  obtain ⟨hlt, hkey, -⟩ := List.idxOf?_eq_some_iff.1 h
  rw [List.getElem?_eq_getElem hlt, hkey]

theorem byte?_eq_ok {n : Nat} {b : UInt8} (h : byte? n = .ok b) : b.toNat = n := by
  unfold byte? at h
  split at h
  · next hlt =>
    obtain rfl := Except.ok.inj h
    exact UInt8.toNat_ofNat_of_lt hlt
  · cases h

theorem number?_eq_ok {keys : List Key} {key : Key} {n : UInt8} (h : number? keys key = .ok n) :
    keys.idxOf? key = some n.toNat := by
  unfold number? at h
  cases hidx : keys.idxOf? key with
  | none =>
    rw [hidx] at h
    cases h
  | some i =>
    rw [hidx] at h
    rw [byte?_eq_ok h]

theorem tableIndex?_eq_ok {addresses : List Key} {key : Key} {i : UInt8}
    (h : tableIndex? addresses key = .ok (some i)) : addresses[i.toNat]? = some key := by
  unfold tableIndex? at h
  cases hidx : addresses.idxOf? key with
  | none =>
    rw [hidx] at h
    cases h
  | some j =>
    rw [hidx] at h
    dsimp only at h
    split at h
    · next hlt =>
      obtain rfl := Option.some.inj (Except.ok.inj h)
      have hbyte : (UInt8.ofNat j).toNat = j := UInt8.toNat_ofNat_of_lt hlt
      rw [hbyte]
      exact getElem?_of_idxOf? hidx
    · cases h

/-- The first place of a key among static keys and others, if it is static. -/
theorem getElem?_static {static others : List Key} {key : Key} {i : Nat} (hmem : key ∈ static)
    (h : (static ++ others).idxOf? key = some i) : static[i]? = some key := by
  obtain ⟨j, hj⟩ := Option.isSome_iff_exists.1 (List.isSome_idxOf?.2 hmem)
  have happend : (static ++ others).idxOf? key = some j := by
    have hfind : static.findIdx? (· == key) = some j := hj
    show (static ++ others).findIdx? (· == key) = some j
    rw [List.findIdx?_append, hfind]
    rfl
  -- the first place is among the static keys already
  obtain rfl : i = j := Option.some.inj (h.symm.trans happend)
  exact getElem?_of_idxOf? hj

/-! ## Calls -/

theorem forall₂_of_mapAll {α β ε : Type} {f : α → Except ε β} {as : List α} {bs : List β}
    (h : mapAll f as = .ok bs) : List.Forall₂ (fun b a => f a = .ok b) bs as := by
  induction as generalizing bs with
  | nil =>
    obtain rfl := Except.ok.inj h
    exact .nil
  | cons a rest ih =>
    unfold mapAll at h
    cases hhead : f a with
    | error e =>
      rw [hhead] at h
      cases h
    | ok b =>
      rw [hhead] at h
      cases htail : mapAll f rest with
      | error e =>
        rw [htail] at h
        cases h
      | ok more =>
        rw [htail] at h
        obtain rfl := Except.ok.inj h
        exact .cons hhead (ih htail)

/-- An instruction that is a call with its keys numbered. -/
structure Numbered (keys : List Key) (ix : CompiledInstruction) (c : Call) : Prop where
  program : keys.idxOf? c.program = some ix.programIndex.toNat
  accounts : List.Forall₂ (fun (n : UInt8) (a : AccountMeta) => keys[n.toNat]? = some a.key)
    ix.accounts c.accounts
  data : ix.data = c.data

theorem numbered_of_compileCall {keys : List Key} {ix : CompiledInstruction} {c : Call}
    (h : compileCall keys c = .ok ix) : Numbered keys ix c := by
  unfold compileCall at h
  cases haccounts : mapAll (fun a : AccountMeta => number? keys a.key) c.accounts with
  | error e =>
    rw [haccounts] at h
    cases h
  | ok accounts =>
    rw [haccounts] at h
    cases hprogram : number? keys c.program with
    | error e =>
      rw [hprogram] at h
      cases h
    | ok program =>
      rw [hprogram] at h
      obtain rfl := Except.ok.inj h
      refine ⟨number?_eq_ok hprogram, ?_, rfl⟩
      refine (forall₂_of_mapAll haccounts).imp fun n a hn => ?_
      exact getElem?_of_idxOf? (number?_eq_ok hn)

/-! ## Tables -/

/-- A table has the keys that it takes over, at their indexes. -/
theorem getElem?_of_mem_drain {addresses keys : List Key} {taken : List (Key × UInt8)}
    (h : drain addresses keys = .ok taken) :
    ∀ entry ∈ taken, entry.1 ∈ keys ∧ addresses[entry.2.toNat]? = some entry.1 := by
  induction keys generalizing taken with
  | nil =>
    obtain rfl := Except.ok.inj h
    exact nofun
  | cons key rest ih =>
    unfold drain at h
    cases hindex : tableIndex? addresses key with
    | error e =>
      rw [hindex] at h
      cases h
    | ok found =>
      rw [hindex] at h
      cases hrest : drain addresses rest with
      | error e =>
        rw [hrest] at h
        cases h
      | ok more =>
        rw [hrest] at h
        have hmore : ∀ entry ∈ more,
            entry.1 ∈ key :: rest ∧ addresses[entry.2.toNat]? = some entry.1 := by
          intro entry hentry
          exact (ih hrest entry hentry).imp_left (List.mem_cons_of_mem _)
        cases found with
        | none =>
          obtain rfl := Except.ok.inj h
          exact hmore
        | some i =>
          obtain rfl := Except.ok.inj h
          intro entry hentry
          rcases List.mem_cons.1 hentry with rfl | hentry
          · exact ⟨List.mem_cons_self .., tableIndex?_eq_ok hindex⟩
          · exact hmore entry hentry

/-- All that a table takes over. -/
def Drained.all (d : Drained) : List (Key × UInt8) :=
  d.writable ++ d.readonly

variable {us : List Use}

/-- A table takes over what neither signs nor is called, the writable and the
    readonly keys apart. -/
theorem mem_drainable {isWritable : Bool} {key : Key} (h : key ∈ drainable isWritable us) :
    ∃ u ∈ us, u.key = key ∧ u.isSigner = false ∧ u.isInvoked = false ∧
      u.isWritable = isWritable := by
  obtain ⟨u, hu, rfl⟩ := List.mem_map.1 h
  obtain ⟨hu, hflags⟩ := List.mem_filter.1 hu
  simp only [Bool.and_eq_true, Bool.not_eq_true', beq_iff_eq] at hflags
  exact ⟨u, hu, rfl, hflags.1.1, hflags.1.2, hflags.2⟩

theorem not_invoked_of_mem_drainable {isWritable : Bool} {key : Key}
    (h : key ∈ drainable isWritable us) : ∃ u ∈ us, u.key = key ∧ u.isInvoked = false := by
  obtain ⟨u, hu, hkey, -, hinvoked, -⟩ := mem_drainable h
  exact ⟨u, hu, hkey, hinvoked⟩

/-- What a table takes over is not called, and is what the table has there. -/
theorem spec_drainTable {table : TableAccount} {d : Drained} (h : drainTable table us = .ok d) :
    ∀ entry ∈ d.all, (∃ u ∈ us, u.key = entry.1 ∧ u.isInvoked = false) ∧
      table.addresses[entry.2.toNat]? = some entry.1 := by
  unfold drainTable at h
  cases hwritable : drain table.addresses (drainable true us) with
  | error e =>
    rw [hwritable] at h
    cases h
  | ok writable =>
    rw [hwritable] at h
    cases hreadonly : drain table.addresses (drainable false us) with
    | error e =>
      rw [hreadonly] at h
      cases h
    | ok readonly =>
      rw [hreadonly] at h
      obtain rfl := Except.ok.inj h
      intro entry hentry
      rcases List.mem_append.1 hentry with hentry | hentry
      · exact (getElem?_of_mem_drain hwritable entry hentry).imp_left not_invoked_of_mem_drainable
      · exact (getElem?_of_mem_drain hreadonly entry hentry).imp_left not_invoked_of_mem_drainable

/-- A key that the table takes over is called by no one. -/
theorem holds_eq_false {table : TableAccount} {d : Drained} (h : drainTable table us = .ok d)
    (hnodup : (us.map Use.key).Nodup) {v : Use} (hv : v ∈ us) (hinvoked : v.isInvoked = true) :
    d.holds v.key = false := by
  rw [Bool.eq_false_iff]
  intro hholds
  obtain ⟨entry, hentry, hkey⟩ := List.any_eq_true.1 hholds
  obtain ⟨⟨u, hu, hukey, hunused⟩, -⟩ := spec_drainTable h entry hentry
  -- a key has one use only, and this one is called
  obtain rfl : u = v :=
    List.inj_on_of_nodup_map hnodup hu hv (hukey.trans (of_decide_eq_true hkey))
  rw [hinvoked] at hunused
  cases hunused

/-- The tables that take keys over are given ones, and each has its keys. -/
structure Taken (tables : List TableAccount) (us left : List Use)
    (drained : List (TableAccount × Drained)) : Prop where
  length_le : drained.length ≤ tables.length
  entries : ∀ x ∈ drained, x.1 ∈ tables ∧
    ∀ entry ∈ x.2.all, x.1.addresses[entry.2.toNat]? = some entry.1
  invoked : ∀ v ∈ us, v.isInvoked = true → v ∈ left
  subset : left ⊆ us

theorem taken_of_drainTables {tables : List TableAccount} {us left : List Use}
    {drained : List (TableAccount × Drained)} (hnodup : (us.map Use.key).Nodup)
    (h : drainTables tables us = .ok (drained, left)) : Taken tables us left drained := by
  induction tables generalizing us left drained with
  | nil =>
    obtain ⟨rfl, rfl⟩ := Prod.mk.inj (Except.ok.inj h)
    exact ⟨Nat.le_refl _, nofun, fun v hv _ => hv, fun _ hv => hv⟩
  | cons table rest ih =>
    unfold drainTables at h
    cases hd : drainTable table us with
    | error e =>
      rw [hd] at h
      cases h
    | ok d =>
      rw [hd] at h
      dsimp only at h
      have hnodup' : ((us.filter fun u => !d.holds u.key).map Use.key).Nodup :=
        hnodup.sublist (List.filter_sublist.map _)
      cases hrest : drainTables rest (us.filter fun u => !d.holds u.key) with
      | error e =>
        rw [hrest] at h
        cases h
      | ok found =>
        obtain ⟨more, left'⟩ := found
        obtain ⟨hlength, hentries, hinvoked, hsubset⟩ := ih hnodup' hrest
        rw [hrest] at h
        dsimp only at h
        -- what the first table takes over is called by no one, so the rest may do the same
        have hmore : ∀ x ∈ more, x.1 ∈ table :: rest ∧
            ∀ entry ∈ x.2.all, x.1.addresses[entry.2.toNat]? = some entry.1 :=
          fun x hx => (hentries x hx).imp_left (List.mem_cons_of_mem _)
        have hkept : ∀ v ∈ us, v.isInvoked = true → v ∈ left' := by
          intro v hv hcalled
          refine hinvoked v (List.mem_filter.2 ⟨hv, ?_⟩) hcalled
          rw [holds_eq_false hd hnodup hv hcalled]
          rfl
        have hgiven : left' ⊆ us := fun v hv => (List.mem_filter.1 (hsubset hv)).1
        split at h
        · obtain ⟨rfl, rfl⟩ := Prod.mk.inj (Except.ok.inj h)
          exact ⟨Nat.le_succ_of_le hlength, hmore, hkept, hgiven⟩
        · obtain ⟨rfl, rfl⟩ := Prod.mk.inj (Except.ok.inj h)
          refine ⟨Nat.succ_le_succ hlength, ?_, hkept, hgiven⟩
          intro x hx
          rcases List.mem_cons.1 hx with rfl | hx
          · exact ⟨List.mem_cons_self .., fun entry he => (spec_drainTable hd entry he).2⟩
          · exact hmore x hx

/-- All keys that the tables of a message take over. -/
def takenKeys (drained : List (TableAccount × Drained)) : List Key :=
  drained.flatMap fun x => x.2.all.map (·.1)

/-- The keys that the tables of a message take over, with their entries. -/
def takenPairs (drained : List (TableAccount × Drained)) : List (Key × TableEntry) :=
  drained.flatMap fun x => x.2.all.map fun entry => (entry.1, ⟨x.1.key, entry.2⟩)

/-- With one table or none the keys are numbered in the order of the entries. -/
theorem numbering_eq {drained : List (TableAccount × Drained)} (hone : drained.length ≤ 1)
    (static : List Key) : numbering static drained = static ++ takenKeys drained := by
  match drained, hone with
  | [], _ => simp [numbering, takenKeys]
  | [(_, d)], _ => simp [numbering, takenKeys, Drained.all]

/-- A number stands for a static key or for an entry of a table, which has the
    key there.  With more than one table the entries of a message stand in
    another order than their numbers. -/
theorem entry_of_number {tables : List TableAccount} {left : List Use}
    {drained : List (TableAccount × Drained)} (h : Taken tables us left drained)
    (hone : tables.length ≤ 1) {static : List Key} {n : Nat} {key : Key}
    (hn : (numbering static drained)[n]? = some key) :
    static[n]? = some key ∨ static.length ≤ n ∧ ∃ entry : TableEntry,
      (flattenLookups (drained.map fun x => lookupOf x.1 x.2))[n - static.length]? = some entry ∧
      ∃ table ∈ tables, entry.table = table.key ∧
        table.addresses[entry.index.toNat]? = some key := by
  rw [numbering_eq (Nat.le_trans h.length_le hone)] at hn
  by_cases hlt : n < static.length
  · rw [List.getElem?_append_left hlt] at hn
    exact .inl hn
  have hle : static.length ≤ n := Nat.le_of_not_lt hlt
  rw [List.getElem?_append_right hle] at hn
  refine .inr ⟨hle, ?_⟩
  -- keys and entries are the two sides of the same pairs
  have hkeys : takenKeys drained = (takenPairs drained).map (·.1) := by
    simp [takenKeys, takenPairs, List.map_flatMap, Function.comp_def]
  have hentries : flattenLookups (drained.map fun x => lookupOf x.1 x.2) =
      (takenPairs drained).map (·.2) := by
    simp [flattenLookups, lookupOf, takenPairs, Drained.all, List.flatMap_map, List.map_flatMap,
      Function.comp_def]
  rw [hkeys, List.getElem?_map] at hn
  obtain ⟨pair, hpair, rfl⟩ := Option.map_eq_some_iff.1 hn
  obtain ⟨x, hx, hmem⟩ := List.mem_flatMap.1 (List.mem_of_getElem? hpair)
  obtain ⟨entry, hentry, rfl⟩ := List.mem_map.1 hmem
  obtain ⟨htable, haddresses⟩ := h.entries x hx
  refine ⟨⟨x.1.key, entry.2⟩, ?_, x.1, htable, rfl, haddresses entry hentry⟩
  rw [hentries, List.getElem?_map, hpair]
  rfl

/-! ## Static keys -/

/-- The static keys of a message that leaves these uses to them. -/
def staticOf (payer : Key) (left : List Use) : List Key :=
  let others := left.filter fun u => u.key ≠ payer
  payer :: keysOfKind true true others ++ keysOfKind true false others ++
    keysOfKind false true others ++ keysOfKind false false others

/-- Whatever may be done with a key, it stands among the static ones. -/
theorem mem_staticOf (payer : Key) {left : List Use} {v : Use} (hv : v ∈ left) :
    v.key ∈ staticOf payer left := by
  -- the payer comes first, and every other use is of one of the four kinds
  by_cases hpayer : v.key = payer
  · rw [hpayer]
    simp [staticOf]
  · have hother : v ∈ left.filter fun u => u.key ≠ payer :=
      List.mem_filter.2 ⟨hv, decide_eq_true hpayer⟩
    have hkind : v.key ∈ keysOfKind v.isSigner v.isWritable (left.filter fun u => u.key ≠ payer) :=
      List.mem_map.2 ⟨v, List.mem_filter.2 ⟨hother, by simp⟩, rfl⟩
    unfold staticOf
    cases hs : v.isSigner <;> cases hw : v.isWritable <;> rw [hs, hw] at hkind <;>
      simp only [List.cons_append, List.mem_cons, List.mem_append, hkind, true_or, or_true]

/-! ## Messages -/

/-- The head of a message that leaves these uses to its static keys. -/
structure HasHead (payer blockhash : Key) (left : List Use) (m : Message) : Prop where
  signers : m.signers.toNat = 1 + (keysOfKind true true (left.filter fun u => u.key ≠ payer)).length +
    (keysOfKind true false (left.filter fun u => u.key ≠ payer)).length
  readonlySigners : m.readonlySigners.toNat =
    (keysOfKind true false (left.filter fun u => u.key ≠ payer)).length
  blockhash : m.blockhash = blockhash

/-- What is known of a compiled message. -/
theorem compile_eq_ok {payer : Key} {calls : List Call} {tables : List TableAccount}
    {blockhash : Key} {m : Message} (h : compile payer calls tables blockhash = .ok m) :
    ∃ drained left, Taken tables (uses payer calls) left drained ∧
      m.staticKeys = staticOf payer left ∧
      m.lookups = drained.map (fun x => lookupOf x.1 x.2) ∧
      List.Forall₂ (Numbered (numbering m.staticKeys drained)) m.instructions calls ∧
      (numbering m.staticKeys drained).length ≤ 256 ∧ HasHead payer blockhash left m := by
  unfold compile at h
  cases hdrain : drainTables tables (uses payer calls) with
  | error e =>
    rw [hdrain] at h
    cases h
  | ok found =>
    obtain ⟨drained, left⟩ := found
    rw [hdrain] at h
    dsimp only at h
    split at h
    · next hsigners hreadonly _ =>
      split at h
      · cases h
      · next hfew =>
        split at h
        · cases h
        · next instructions hcalls =>
          obtain rfl := Except.ok.inj h
          refine ⟨drained, left, taken_of_drainTables (nodup_uses payer calls) hdrain, rfl, rfl,
            (forall₂_of_mapAll hcalls).imp fun ix c hc => numbered_of_compileCall hc,
            Nat.not_lt.1 hfew, ?_, ?_, rfl⟩
          · refine (byte?_eq_ok hsigners).trans ?_
            rw [List.length_cons]
            omega
          · exact byte?_eq_ok hreadonly
    · cases h

end PoolWatch.Message
