import PoolWatch.Proofs.Registry.Knowledge
import PoolWatch.Proofs.Registry.Numbering

/-! # What an account number stands for

    An account number is a place in one list: the keys that the message
    carries, and then, entry by entry, the addresses that it takes from lookup
    tables.  Resolving a number answers what stands at its place, and says so
    when there is no such place.

    A table is loaded when a number stands for one of its entries, and only
    then.  `Loads` and `LoadFails` tell what can come of it from what is kept
    and from what the node says, and nothing else is looked at on the way
    (`resolveIndex_congr`). -/

namespace PoolWatch

/-- A message numbers the keys that it carries and the entries that it takes. -/
def accountCount (static : List Key) (lookups : List TableLookup) : Nat :=
  static.length + (flattenLookups lookups).length

namespace Registry

open Account (LookupTable)

/-! ## Loading a table -/

/-- A table is kept, or it is not kept and the node tells of it. -/
inductive Loads (r : Registry) (table : Key) : LookupTable → Prop where
  | kept {content : LookupTable} : r.tableRecord table = .ok (some content) →
      Loads r table content
  | told {account : AccountInfo} {content : LookupTable} : r.tableRecord table = .ok none →
      r.reader.account r.asked table = .ok (some account) →
      LookupTable.decode account.data = .ok content → Loads r table content

/-- What is kept does not read; or nothing is kept, and the node does not
    answer, knows of no such account, or tells of one that is no table. -/
inductive LoadFails (r : Registry) (table : Key) : ResolveError → Prop where
  | unread {e : StoreError} : r.tableRecord table = .error e → LoadFails r table (.store e)
  | refused {text : String} : r.tableRecord table = .ok none →
      r.reader.account r.asked table = .error text → LoadFails r table (.remote text)
  | missing : r.tableRecord table = .ok none → r.reader.account r.asked table = .ok none →
      LoadFails r table (.tableNotFound table)
  | garbled {account : AccountInfo} {e : DecodeError} : r.tableRecord table = .ok none →
      r.reader.account r.asked table = .ok (some account) →
      LookupTable.decode account.data = .error e → LoadFails r table (.decode e)

section Loading

variable {r r' : Registry} {table : Key} {content : LookupTable} {e : ResolveError}

theorem Loads.lookup (h : r.Loads table content) :
    (runOn (lookupTable table) r).1 = .ok content := by
  cases h with
  | kept hkept => rw [runOn_lookupTable_kept hkept]
  | told hnone haccount hdecode =>
    rw [runOn_lookupTable_told hnone, haccount]
    dsimp only
    rw [hdecode]

theorem LoadFails.lookup (h : r.LoadFails table e) :
    (runOn (lookupTable table) r).1 = .error e := by
  cases h with
  | unread hunread => rw [runOn_lookupTable_unread hunread]
  | refused hnone hrefused => rw [runOn_lookupTable_told hnone, hrefused]
  | missing hnone hmissing => rw [runOn_lookupTable_told hnone, hmissing]
  | garbled hnone haccount hdecode =>
    rw [runOn_lookupTable_told hnone, haccount]
    dsimp only
    rw [hdecode]

/-- A table is loaded, or there is one of four reasons why not. -/
theorem loads_or_fails (r : Registry) (table : Key) :
    (∃ content, r.Loads table content) ∨ ∃ e, r.LoadFails table e := by
  cases hrecord : r.tableRecord table with
  | error e => exact .inr ⟨_, .unread hrecord⟩
  | ok found =>
    cases found with
    | some content => exact .inl ⟨content, .kept hrecord⟩
    | none =>
      cases haccount : r.reader.account r.asked table with
      | error text => exact .inr ⟨_, .refused hrecord haccount⟩
      | ok told =>
        cases told with
        | none => exact .inr ⟨_, .missing hrecord haccount⟩
        | some account =>
          cases hdecode : LookupTable.decode account.data with
          | error e => exact .inr ⟨_, .garbled hrecord haccount hdecode⟩
          | ok content => exact .inl ⟨content, .told hrecord haccount hdecode⟩

theorem lookupTable_eq_ok_iff :
    (runOn (lookupTable table) r).1 = .ok content ↔ r.Loads table content := by
  refine ⟨fun h => ?_, Loads.lookup⟩
  obtain ⟨content', hloads⟩ | ⟨e, hfails⟩ := r.loads_or_fails table
  · rw [hloads.lookup] at h
    exact Except.ok.inj h ▸ hloads
  · rw [hfails.lookup] at h
    cases h

theorem lookupTable_eq_error_iff :
    (runOn (lookupTable table) r).1 = .error e ↔ r.LoadFails table e := by
  refine ⟨fun h => ?_, LoadFails.lookup⟩
  obtain ⟨content, hloads⟩ | ⟨e', hfails⟩ := r.loads_or_fails table
  · rw [hloads.lookup] at h
    cases h
  · rw [hfails.lookup] at h
    exact Except.error.inj h ▸ hfails

/-- A failure to load is told apart from a number that is out of range. -/
theorem LoadFails.ne_indexOutOfRange (h : r.LoadFails table e) (index len : Nat) :
    e ≠ .indexOutOfRange index len := by
  cases h <;> nofun

/-- What is kept of a table, and what the node would say of it now, are the same. -/
structure SameTable (table : Key) (r r' : Registry) : Prop where
  kept : r'.store.get? table.text Store.Field.lookupTable.name =
    r.store.get? table.text Store.Field.lookupTable.name
  told : r'.reader.account r'.asked table = r.reader.account r.asked table

theorem SameTable.record (h : SameTable table r r') : r'.tableRecord table = r.tableRecord table :=
  Store.record?_congr h.kept

/-- From the same table the same is loaded. -/
theorem SameTable.lookup (h : SameTable table r r') :
    (runOn (lookupTable table) r').1 = (runOn (lookupTable table) r).1 := by
  obtain ⟨content, hloads⟩ | ⟨e, hfails⟩ := r.loads_or_fails table
  · rw [hloads.lookup, lookupTable_eq_ok_iff]
    cases hloads with
    | kept hkept => exact .kept (h.record.trans hkept)
    | told hnone haccount hdecode =>
      exact .told (h.record.trans hnone) (h.told.trans haccount) hdecode
  · rw [hfails.lookup, lookupTable_eq_error_iff]
    cases hfails with
    | unread hunread => exact .unread (h.record.trans hunread)
    | refused hnone hrefused => exact .refused (h.record.trans hnone) (h.told.trans hrefused)
    | missing hnone hmissing => exact .missing (h.record.trans hnone) (h.told.trans hmissing)
    | garbled hnone haccount hdecode =>
      exact .garbled (h.record.trans hnone) (h.told.trans haccount) hdecode

/-- Of all tables only one was looked at: no other record changed, and nobody
    was asked unless nothing was kept of this table, and then about it alone. -/
structure LooksOnlyAt (table : Key) (r r' : Registry) : Prop where
  writes : (onlyWritesAt table.text .lookupTable).rel r r'
  asks : r'.asked = r.asked ∨
    r.tableRecord table = .ok none ∧ r'.asked = .account table :: r.asked

theorem lookupTable_looksOnlyAt (table : Key) (r : Registry) :
    LooksOnlyAt table r (runOn (lookupTable table) r).2 := by
  refine ⟨allows_lookupTable_at table r, ?_⟩
  cases hrecord : r.tableRecord table with
  | error e =>
    rw [runOn_lookupTable_unread hrecord]
    exact .inl rfl
  | ok found =>
    cases found with
    | some content =>
      rw [runOn_lookupTable_kept hrecord]
      exact .inl rfl
    | none =>
      -- whatever the node answers, it was asked once
      refine .inr ⟨rfl, ?_⟩
      rw [runOn_lookupTable_told hrecord]
      cases r.reader.account r.asked table with
      | error text => rfl
      | ok told =>
        cases told with
        | none => rfl
        | some account =>
          dsimp only
          cases LookupTable.decode account.data <;> rfl

end Loading

/-! ## Entries -/

section Entries

variable {r r' : Registry} {entry : TableEntry} {key : Key} {e : ResolveError}

theorem runOn_entryKey_error (h : r.LoadFails entry.table e) :
    (runOn (entryKey entry) r).1 = .error e := by
  unfold entryKey
  rw [runOn_bind_error (Prod.ext h.lookup rfl)]

theorem runOn_entryKey_ok {content : LookupTable} (h : r.Loads entry.table content) :
    (runOn (entryKey entry) r).1 =
      match content.addresses[entry.index.toNat]? with
      | some key => .ok key
      | none => .error (.indexOutOfRange entry.index.toNat content.addresses.length) := by
  unfold entryKey
  rw [runOn_bind_ok (Prod.ext h.lookup rfl)]
  cases content.addresses[entry.index.toNat]? <;> rfl

/-- Reading an entry loads its table and does nothing else. -/
theorem runOn_entryKey_snd (entry : TableEntry) (r : Registry) :
    (runOn (entryKey entry) r).2 = (runOn (lookupTable entry.table) r).2 := by
  unfold entryKey
  rcases hrun : runOn (lookupTable entry.table) r with ⟨e | content, r'⟩
  · rw [runOn_bind_error hrun]
  · rw [runOn_bind_ok hrun]
    cases content.addresses[entry.index.toNat]? <;> rfl

theorem entryKey_eq_ok_iff :
    (runOn (entryKey entry) r).1 = .ok key ↔
      ∃ content, r.Loads entry.table content ∧
        content.addresses[entry.index.toNat]? = some key := by
  constructor
  · intro h
    obtain ⟨content, hloads⟩ | ⟨e, hfails⟩ := r.loads_or_fails entry.table
    · rw [runOn_entryKey_ok hloads] at h
      cases haddress : content.addresses[entry.index.toNat]? with
      | none =>
        rw [haddress] at h
        cases h
      | some key' =>
        rw [haddress] at h
        exact ⟨content, hloads, haddress.trans (congrArg some (Except.ok.inj h))⟩
    · rw [runOn_entryKey_error hfails] at h
      cases h
  · rintro ⟨content, hloads, haddress⟩
    rw [runOn_entryKey_ok hloads, haddress]

/-- An entry is refused because its table does not load, or because the table
    ends before it. -/
theorem entryKey_eq_error_iff :
    (runOn (entryKey entry) r).1 = .error e ↔
      r.LoadFails entry.table e ∨
      ∃ content, r.Loads entry.table content ∧ content.addresses.length ≤ entry.index.toNat ∧
        e = .indexOutOfRange entry.index.toNat content.addresses.length := by
  constructor
  · intro h
    obtain ⟨content, hloads⟩ | ⟨e', hfails⟩ := r.loads_or_fails entry.table
    · rw [runOn_entryKey_ok hloads] at h
      cases haddress : content.addresses[entry.index.toNat]? with
      | none =>
        rw [haddress] at h
        have hend := List.getElem?_eq_none_iff.1 haddress
        exact .inr ⟨content, hloads, hend, (Except.error.inj h).symm⟩
      | some key =>
        rw [haddress] at h
        cases h
    · rw [runOn_entryKey_error hfails] at h
      exact .inl (Except.error.inj h ▸ hfails)
  · rintro (hfails | ⟨content, hloads, hend, rfl⟩)
    · exact runOn_entryKey_error hfails
    · rw [runOn_entryKey_ok hloads, List.getElem?_eq_none hend]

theorem SameTable.entryKey (h : SameTable entry.table r r') :
    (runOn (entryKey entry) r').1 = (runOn (entryKey entry) r).1 := by
  have hlookup := h.lookup
  obtain ⟨content, hloads⟩ | ⟨e, hfails⟩ := r.loads_or_fails entry.table
  · rw [hloads.lookup, lookupTable_eq_ok_iff] at hlookup
    rw [runOn_entryKey_ok hloads, runOn_entryKey_ok hlookup]
  · rw [hfails.lookup, lookupTable_eq_error_iff] at hlookup
    rw [runOn_entryKey_error hfails, runOn_entryKey_error hlookup]

end Entries

/-! ## Numbers -/

/-- What stands at each number: the keys that the message carries, and then
    the addresses of the entries that it takes. -/
def addresses (r : Registry) (static : List Key) (lookups : List TableLookup) :
    List (Except ResolveError Key) :=
  static.map .ok ++ (flattenLookups lookups).map fun entry => (runOn (entryKey entry) r).1

/-- A number that stands for an entry. -/
def NumberOf (static : List Key) (lookups : List TableLookup) (index : Nat)
    (entry : TableEntry) : Prop :=
  static.length ≤ index ∧ (flattenLookups lookups)[index - static.length]? = some entry

instance (static : List Key) (lookups : List TableLookup) (index : Nat) (entry : TableEntry) :
    Decidable (NumberOf static lookups index entry) :=
  inferInstanceAs (Decidable (_ ∧ _))

section Numbers

variable {r r' : Registry} {static : List Key} {lookups : List TableLookup} {index : Nat}
  {entry : TableEntry} {e : ResolveError}

@[simp] theorem length_addresses :
    (r.addresses static lookups).length = accountCount static lookups := by
  simp [addresses, accountCount]

theorem NumberOf.lt (h : NumberOf static lookups index entry) :
    index < accountCount static lookups := by
  obtain ⟨hle, hentry⟩ := h
  obtain ⟨hlt, -⟩ := List.getElem?_eq_some_iff.1 hentry
  unfold accountCount
  omega

/-- A number is one of a key, one of an entry, or out of range. -/
theorem number_cases (static : List Key) (lookups : List TableLookup) (index : Nat) :
    (∃ key, static[index]? = some key) ∨ (∃ entry, NumberOf static lookups index entry) ∨
      accountCount static lookups ≤ index := by
  by_cases hstatic : index < static.length
  · exact .inl ⟨static[index], List.getElem?_eq_getElem hstatic⟩
  · by_cases hentry : index - static.length < (flattenLookups lookups).length
    · exact .inr (.inl ⟨_, Nat.le_of_not_lt hstatic, List.getElem?_eq_getElem hentry⟩)
    · refine .inr (.inr ?_)
      unfold accountCount
      omega

theorem resolveIndex_of_static {key : Key} (h : static[index]? = some key) :
    resolveIndex static lookups index = pure key := by
  unfold resolveIndex
  rw [h]

theorem resolveIndex_of_entry (h : NumberOf static lookups index entry) :
    resolveIndex static lookups index = entryKey entry := by
  obtain ⟨hle, hentry⟩ := h
  obtain ⟨n, rfl⟩ := Nat.exists_eq_add_of_le hle
  rw [Nat.add_sub_cancel_left] at hentry
  rw [resolveIndex_loaded, hentry]

theorem resolveIndex_of_beyond (h : accountCount static lookups ≤ index) :
    resolveIndex static lookups index =
      throw (.indexOutOfRange index (accountCount static lookups)) := by
  unfold accountCount at h
  obtain ⟨n, rfl⟩ := Nat.exists_eq_add_of_le (Nat.le_trans (Nat.le_add_right _ _) h)
  have hnone : (flattenLookups lookups)[n]? = none := List.getElem?_eq_none (by omega)
  rw [resolveIndex_loaded, hnone]
  unfold accountCount
  rw [length_flattenLookups]

theorem getElem?_addresses_static {key : Key} (h : static[index]? = some key) :
    (r.addresses static lookups)[index]? = some (.ok key) := by
  obtain ⟨hlt, -⟩ := List.getElem?_eq_some_iff.1 h
  unfold addresses
  rw [List.getElem?_append_left (by rwa [List.length_map]), List.getElem?_map, h]
  rfl

theorem getElem?_addresses_entry (h : NumberOf static lookups index entry) :
    (r.addresses static lookups)[index]? = some (runOn (entryKey entry) r).1 := by
  obtain ⟨hle, hentry⟩ := h
  unfold addresses
  rw [List.getElem?_append_right (by rwa [List.length_map]), List.length_map, List.getElem?_map,
    hentry]
  rfl

/-- Resolving answers what stands at the number, and says so when nothing does. -/
theorem runOn_resolveIndex (static : List Key) (lookups : List TableLookup) (index : Nat)
    (r : Registry) :
    (runOn (resolveIndex static lookups index) r).1 =
      (r.addresses static lookups)[index]?.getD
        (.error (.indexOutOfRange index (accountCount static lookups))) := by
  obtain ⟨key, hkey⟩ | ⟨entry, hentry⟩ | hbeyond := number_cases static lookups index
  · rw [resolveIndex_of_static hkey, getElem?_addresses_static hkey]
    rfl
  · rw [resolveIndex_of_entry hentry, getElem?_addresses_entry hentry]
    rfl
  · have hnone : (r.addresses static lookups)[index]? = none :=
      List.getElem?_eq_none (length_addresses.trans_le hbeyond)
    rw [resolveIndex_of_beyond hbeyond, hnone]
    rfl

/-- Every refusal has its reason: the number is out of range, its table does
    not load, or its table ends before the entry. -/
theorem resolveIndex_eq_error_iff :
    (runOn (resolveIndex static lookups index) r).1 = .error e ↔
      (accountCount static lookups ≤ index ∧
        e = .indexOutOfRange index (accountCount static lookups)) ∨
      (∃ entry, NumberOf static lookups index entry ∧ r.LoadFails entry.table e) ∨
      ∃ entry content, NumberOf static lookups index entry ∧ r.Loads entry.table content ∧
        content.addresses.length ≤ entry.index.toNat ∧
        e = .indexOutOfRange entry.index.toNat content.addresses.length := by
  constructor
  · intro h
    obtain ⟨key, hkey⟩ | ⟨entry, hentry⟩ | hbeyond := number_cases static lookups index
    · rw [resolveIndex_of_static hkey] at h
      cases h
    · rw [resolveIndex_of_entry hentry, entryKey_eq_error_iff] at h
      obtain hfails | ⟨content, hloads, hend, rfl⟩ := h
      · exact .inr (.inl ⟨entry, hentry, hfails⟩)
      · exact .inr (.inr ⟨entry, content, hentry, hloads, hend, rfl⟩)
    · rw [resolveIndex_of_beyond hbeyond] at h
      exact .inl ⟨hbeyond, (Except.error.inj h).symm⟩
  · rintro (⟨hbeyond, rfl⟩ | ⟨entry, hentry, hfails⟩ | ⟨entry, content, hentry, hloads, hend, rfl⟩)
    · rw [resolveIndex_of_beyond hbeyond]
      rfl
    · rw [resolveIndex_of_entry hentry]
      exact runOn_entryKey_error hfails
    · rw [resolveIndex_of_entry hentry, entryKey_eq_error_iff]
      exact .inr ⟨content, hloads, hend, rfl⟩

/-- Only a number out of range is refused with itself and the count of all
    numbers: a table that ends too early ends before the entry it is asked for. -/
theorem resolveIndex_out_of_range_iff :
    (runOn (resolveIndex static lookups index) r).1 =
        .error (.indexOutOfRange index (accountCount static lookups)) ↔
      accountCount static lookups ≤ index := by
  rw [resolveIndex_eq_error_iff]
  constructor
  · rintro (⟨hbeyond, -⟩ | ⟨entry, -, hfails⟩ | ⟨entry, content, hentry, -, hend, hsame⟩)
    · exact hbeyond
    · exact absurd rfl (hfails.ne_indexOutOfRange _ _)
    · obtain ⟨hindex, hlength⟩ := ResolveError.indexOutOfRange.inj hsame
      omega
  · exact fun hbeyond => .inl ⟨hbeyond, rfl⟩

/-- With any other refusal the one table that the number names did not load. -/
theorem resolveIndex_unloaded_iff (h : ∀ i n, e ≠ .indexOutOfRange i n) :
    (runOn (resolveIndex static lookups index) r).1 = .error e ↔
      ∃ entry, NumberOf static lookups index entry ∧ r.LoadFails entry.table e := by
  rw [resolveIndex_eq_error_iff]
  constructor
  · rintro (⟨-, rfl⟩ | hfails | ⟨entry, content, -, -, -, rfl⟩)
    · exact absurd rfl (h _ _)
    · exact hfails
    · exact absurd rfl (h _ _)
  · exact fun hfails => .inr (.inl hfails)

/-- Within range, a refusal for being out of range is about the table. -/
theorem resolveIndex_past_end_iff (hlt : index < accountCount static lookups) (i n : Nat) :
    (runOn (resolveIndex static lookups index) r).1 = .error (.indexOutOfRange i n) ↔
      ∃ entry content, NumberOf static lookups index entry ∧ r.Loads entry.table content ∧
        i = entry.index.toNat ∧ n = content.addresses.length ∧ n ≤ i := by
  rw [resolveIndex_eq_error_iff]
  constructor
  · rintro (⟨hbeyond, -⟩ | ⟨entry, -, hfails⟩ | ⟨entry, content, hentry, hloads, hend, hsame⟩)
    · omega
    · exact absurd rfl (hfails.ne_indexOutOfRange i n)
    · obtain ⟨rfl, rfl⟩ := ResolveError.indexOutOfRange.inj hsame
      exact ⟨entry, content, hentry, hloads, rfl, rfl, hend⟩
  · rintro ⟨entry, content, hentry, hloads, rfl, rfl, hend⟩
    exact .inr (.inr ⟨entry, content, hentry, hloads, hend, rfl⟩)

/-- Where its one table is the same, a number is answered the same, whatever
    is kept or told of other tables. -/
theorem resolveIndex_congr (h : NumberOf static lookups index entry)
    (hsame : SameTable entry.table r r') :
    (runOn (resolveIndex static lookups index) r').1 =
      (runOn (resolveIndex static lookups index) r).1 := by
  rw [resolveIndex_of_entry h]
  exact hsame.entryKey

theorem resolveIndex_looksOnlyAt (h : NumberOf static lookups index entry) (r : Registry) :
    LooksOnlyAt entry.table r (runOn (resolveIndex static lookups index) r).2 := by
  rw [resolveIndex_of_entry h, runOn_entryKey_snd]
  exact lookupTable_looksOnlyAt entry.table r

end Numbers

/-! ## Positions -/

section Positions

variable {e : Envelope} {ix : CompiledInstruction} {position : Nat} {r : Registry}

theorem resolve_of_empty (h : ix.accounts = []) :
    resolve e ix position = throw .noAccountIndexes := by
  rw [resolve_eq, h]
  rfl

theorem resolve_of_past (hsome : ix.accounts ≠ []) (h : ix.accounts.length ≤ position) :
    resolve e ix position = throw (.indexOutOfRange position ix.accounts.length) := by
  rw [resolve_eq, List.getElem?_eq_none h]
  dsimp only
  rw [if_neg (by simpa using hsome)]

theorem resolve_of_index {n : UInt8} (h : ix.accounts[position]? = some n) :
    resolve e ix position = resolveIndex e.accountKeys e.tableLookups n.toNat := by
  rw [resolve_eq, h]

/-- Only an instruction without accounts is refused for having none. -/
theorem resolve_noAccountIndexes_iff :
    (runOn (resolve e ix position) r).1 = .error .noAccountIndexes ↔ ix.accounts = [] := by
  have hkind : ∀ i n, ResolveError.noAccountIndexes ≠ .indexOutOfRange i n := nofun
  constructor
  · intro h
    by_contra hsome
    by_cases hpast : ix.accounts.length ≤ position
    · rw [resolve_of_past hsome hpast] at h
      cases h
    · -- a number is there, and no number is refused so
      have hn : ix.accounts[position]? = some ix.accounts[position] :=
        List.getElem?_eq_getElem (Nat.lt_of_not_le hpast)
      rw [resolve_of_index hn, resolveIndex_unloaded_iff hkind] at h
      obtain ⟨entry, -, hfails⟩ := h
      cases hfails
  · intro h
    rw [resolve_of_empty h]
    rfl

end Positions

/-! ## Exactness -/

/-- A number is answered with what stands at its place, and refused for one
    reason: it is out of range, the one table it names does not load, or that
    table ends before the entry.  No other table is looked at, and none for a
    number of a key.  A position is answered as its number, if it has one. -/
theorem resolution_exact (r : Registry) :
    (∀ static lookups index,
      (runOn (resolveIndex static lookups index) r).1 =
        (r.addresses static lookups)[index]?.getD
          (.error (.indexOutOfRange index (accountCount static lookups))) ∧
      ((runOn (resolveIndex static lookups index) r).1 =
          .error (.indexOutOfRange index (accountCount static lookups)) ↔
        accountCount static lookups ≤ index) ∧
      (∀ e, (∀ i n, e ≠ .indexOutOfRange i n) →
        ((runOn (resolveIndex static lookups index) r).1 = .error e ↔
          ∃ entry, NumberOf static lookups index entry ∧ r.LoadFails entry.table e)) ∧
      (index < accountCount static lookups → ∀ i n,
        ((runOn (resolveIndex static lookups index) r).1 = .error (.indexOutOfRange i n) ↔
          ∃ entry content, NumberOf static lookups index entry ∧ r.Loads entry.table content ∧
            i = entry.index.toNat ∧ n = content.addresses.length ∧ n ≤ i)) ∧
      (∀ key, static[index]? = some key →
        runOn (resolveIndex static lookups index) r = (.ok key, r)) ∧
      (∀ entry, NumberOf static lookups index entry →
        (∀ key, (runOn (resolveIndex static lookups index) r).1 = .ok key ↔
          ∃ content, r.Loads entry.table content ∧
            content.addresses[entry.index.toNat]? = some key) ∧
        LooksOnlyAt entry.table r (runOn (resolveIndex static lookups index) r).2 ∧
        ∀ r', SameTable entry.table r r' →
          (runOn (resolveIndex static lookups index) r').1 =
            (runOn (resolveIndex static lookups index) r).1)) ∧
    ∀ (e : Envelope) ix position,
      ((runOn (resolve e ix position) r).1 = .error .noAccountIndexes ↔ ix.accounts = []) ∧
      (ix.accounts ≠ [] → ix.accounts.length ≤ position →
        runOn (resolve e ix position) r =
          (.error (.indexOutOfRange position ix.accounts.length), r)) ∧
      ∀ n, ix.accounts[position]? = some n →
        resolve e ix position = resolveIndex e.accountKeys e.tableLookups n.toNat := by
  refine ⟨fun static lookups index => ?_, fun e ix position => ?_⟩
  · refine ⟨runOn_resolveIndex static lookups index r, resolveIndex_out_of_range_iff,
      fun e => resolveIndex_unloaded_iff, resolveIndex_past_end_iff, fun key hkey => ?_,
      fun entry hentry => ⟨fun key => ?_, resolveIndex_looksOnlyAt hentry r,
        fun r' => resolveIndex_congr hentry⟩⟩
    · rw [resolveIndex_of_static hkey]
      rfl
    · rw [resolveIndex_of_entry hentry]
      exact entryKey_eq_ok_iff
  · refine ⟨resolve_noAccountIndexes_iff, fun hsome hpast => ?_, fun n => resolve_of_index⟩
    rw [resolve_of_past hsome hpast]
    rfl

namespace Resolved

/-- A table with two addresses. -/
def content : LookupTable where
  deactivationSlot := 0
  lastExtendedSlot := 0
  lastExtendedStart := 0
  authority := none
  addresses := [.ofNat 21, .ofNat 22]

/-- The table is kept, and nothing else is. -/
def registry : Registry :=
  (⟨.empty, .empty, []⟩ : Registry).withRecord (Key.ofNat 1).text .lookupTable content.toJson

/-- An entry that the table has, one past its end, and one of a table that
    nobody knows. -/
def lookups : List TableLookup :=
  [⟨.ofNat 1, [1], [5]⟩, ⟨.ofNat 2, [], [0]⟩]

theorem loads_registry : registry.Loads (.ofNat 1) content :=
  .kept (tableRecord_withRecord_self _ _ content)

theorem fails_registry : registry.LoadFails (.ofNat 2) (.tableNotFound (.ofNat 2)) := by
  have hother : Key.ofNat 2 ≠ Key.ofNat 1 := by decide
  exact .missing (tableRecord_withRecord_ne hother _ content) rfl

/-- One key and three entries: each is answered or refused for its own reason,
    and so are the number after them and a position after the last. -/
theorem resolution_seams :
    runOn (resolveIndex [.ofNat 7] lookups 0) registry = (.ok (.ofNat 7), registry) ∧
      (runOn (resolveIndex [.ofNat 7] lookups 1) registry).1 = .ok (.ofNat 22) ∧
      (runOn (resolveIndex [.ofNat 7] lookups 2) registry).1 = .error (.indexOutOfRange 5 2) ∧
      (runOn (resolveIndex [.ofNat 7] lookups 3) registry).1 =
        .error (.tableNotFound (.ofNat 2)) ∧
      (runOn (resolveIndex [.ofNat 7] lookups 4) registry).1 = .error (.indexOutOfRange 4 4) ∧
      runOn (resolve .empty ⟨0, [3], []⟩ 1) registry =
        (.error (.indexOutOfRange 1 1), registry) := by
  obtain ⟨hnumber, hposition⟩ := resolution_exact registry
  obtain ⟨-, -, -, -, hkey, -⟩ := hnumber [.ofNat 7] lookups 0
  obtain ⟨-, -, -, -, -, hentry⟩ := hnumber [.ofNat 7] lookups 1
  obtain ⟨-, -, -, hpast, -, -⟩ := hnumber [.ofNat 7] lookups 2
  obtain ⟨-, -, hunloaded, -, -, -⟩ := hnumber [.ofNat 7] lookups 3
  obtain ⟨-, hbeyond, -, -, -, -⟩ := hnumber [.ofNat 7] lookups 4
  obtain ⟨hfirst, -, -⟩ := hentry ⟨.ofNat 1, 1⟩ (by decide)
  obtain ⟨-, hposition, -⟩ := hposition .empty ⟨0, [3], []⟩ 1
  have hkind : ∀ i n, ResolveError.tableNotFound (.ofNat 2) ≠ .indexOutOfRange i n := nofun
  refine ⟨hkey _ rfl, (hfirst _).2 ⟨content, loads_registry, rfl⟩, ?_, ?_,
    hbeyond.2 (by decide), hposition (by decide) (by decide)⟩
  · exact (hpast (by decide) 5 2).2
      ⟨⟨.ofNat 1, 5⟩, content, by decide, loads_registry, rfl, rfl, by decide⟩
  · exact (hunloaded _ hkind).2 ⟨⟨.ofNat 2, 0⟩, by decide, fails_registry⟩

end Resolved

end Registry

end PoolWatch
