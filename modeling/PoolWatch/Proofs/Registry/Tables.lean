import PoolWatch.Proofs.Registry.Operations

/-! # Keys that can be resolved

    A registry has a table when it keeps it with the given addresses, or
    keeps nothing under its key and the node, whenever it is asked, tells of
    an account with those addresses.  Looking at the chain takes no table
    away, so a key that can be resolved once can be resolved again. -/

namespace PoolWatch.Registry

open Account (LookupTable)

/-! ## Tables -/

/-- The record of a lookup table. -/
def tableRecord (r : Registry) (table : Key) : Except StoreError (Option LookupTable) :=
  r.store.record? LookupTable.ofJson? table.text .lookupTable

/-- The node tells of a table with these addresses, whenever it is asked. -/
def TellsTable (r : Registry) (table : Key) (addresses : List Key) : Prop :=
  ∀ asked, ∃ account content, r.reader.account asked table = .ok (some account) ∧
    LookupTable.decode account.data = .ok content ∧ content.addresses = addresses

/-- A table with these addresses is kept, or not yet kept and told by the node. -/
inductive HasTable (r : Registry) (table : Key) (addresses : List Key) : Prop where
  | kept {content : LookupTable} : r.tableRecord table = .ok (some content) →
      content.addresses = addresses → HasTable r table addresses
  | told : r.tableRecord table = .ok none → r.TellsTable table addresses →
      HasTable r table addresses

/-- No table is taken away. -/
def keepsTables : Frame Registry where
  rel r r' := ∀ table addresses, r.HasTable table addresses → r'.HasTable table addresses
  refl _ := fun _ _ => id
  trans h h' := fun table addresses hhas => h' table addresses (h table addresses hhas)

variable {ε α : Type} {r r' : Registry} {table : Key} {addresses : List Key}

/-- A table is still there when its record and the node are as before. -/
theorem HasTable.congr (h : r.HasTable table addresses) (hreader : r'.reader = r.reader)
    (hrecord : r'.tableRecord table = r.tableRecord table) : r'.HasTable table addresses := by
  cases h with
  | kept hkept haddresses => exact .kept (hrecord.trans hkept) haddresses
  | told hnone htells =>
    refine .told (hrecord.trans hnone) ?_
    unfold TellsTable
    rw [hreader]
    exact htells

theorem keepsTables_of_asks (h : onlyAsks.rel r r') : keepsTables.rel r r' := by
  obtain ⟨hreader, hstore⟩ := Prod.mk.inj h
  intro table addresses hhas
  refine hhas.congr hreader ?_
  unfold tableRecord
  rw [hstore]

theorem tableRecord_withRecord_self (r : Registry) (table : Key) (content : LookupTable) :
    (r.withRecord table.text .lookupTable content.toJson).tableRecord table =
      .ok (some content) :=
  r.store.record?_putRecord_self table.text .lookupTable content.plain_toJson
    (LookupTable.ofJson?_toJson content)

theorem tableRecord_withRecord_ne {other : Key} (h : other ≠ table) (r : Registry)
    (content : LookupTable) :
    (r.withRecord table.text .lookupTable content.toJson).tableRecord other =
      r.tableRecord other :=
  r.store.record?_putRecord_of_ne _ fun hc => h (Key.text_inj.1 hc.1)

/-! ## Looking a table up -/

/-- A table that is kept is answered at once. -/
theorem runOn_lookupTable_kept {content : LookupTable}
    (h : r.tableRecord table = .ok (some content)) :
    runOn (lookupTable table) r = (.ok content, r) := by
  unfold tableRecord at h
  unfold lookupTable
  rw [runOn_bind_ok (runOn_get r), runOn_bind_ok (runOn_orThrow_ok _ h r)]
  rfl

/-- A record that does not read refuses the look-up. -/
theorem runOn_lookupTable_unread {e : StoreError} (h : r.tableRecord table = .error e) :
    runOn (lookupTable table) r = (.error (.store e), r) := by
  unfold tableRecord at h
  unfold lookupTable
  rw [runOn_bind_ok (runOn_get r), runOn_bind_error (runOn_orThrow_error _ h r)]

/-- A table that is not kept is asked for, and kept when it is told of. -/
theorem runOn_lookupTable_told (hnone : r.tableRecord table = .ok none) :
    runOn (lookupTable table) r =
      match r.reader.account r.asked table with
      | .error text => (.error (.remote text), r.withAsked (.account table))
      | .ok none => (.error (.tableNotFound table), r.withAsked (.account table))
      | .ok (some account) =>
        match LookupTable.decode account.data with
        | .error e => (.error (.decode e), r.withAsked (.account table))
        | .ok content =>
          (.ok content,
            (r.withAsked (.account table)).withRecord table.text .lookupTable content.toJson) := by
  unfold tableRecord at hnone
  unfold lookupTable
  rw [runOn_bind_ok (runOn_get r), runOn_bind_ok (runOn_orThrow_ok _ hnone r)]
  dsimp only
  rw [runOn_bind_ok (runOn_readAccount table r)]
  cases haccount : r.reader.account r.asked table with
  | error text => rw [runOn_bind_error (runOn_orThrow_error _ rfl _)]
  | ok found =>
    rw [runOn_bind_ok (runOn_orThrow_ok _ rfl _)]
    cases found with
    | none => rfl
    | some account =>
      dsimp only
      cases hdecode : LookupTable.decode account.data with
      | error e => rw [runOn_bind_error (runOn_orThrow_error _ rfl _)]
      | ok content =>
        rw [runOn_bind_ok (runOn_orThrow_ok _ rfl _)]
        rfl

/-- A table that the registry has is found with its addresses. -/
theorem HasTable.lookup (h : r.HasTable table addresses) :
    ∃ content, (runOn (lookupTable table) r).1 = .ok content ∧ content.addresses = addresses := by
  cases h with
  | kept hkept haddresses =>
    rw [runOn_lookupTable_kept hkept]
    exact ⟨_, rfl, haddresses⟩
  | told hnone htells =>
    obtain ⟨account, content, haccount, hdecode, haddresses⟩ := htells r.asked
    rw [runOn_lookupTable_told hnone, haccount]
    dsimp only
    rw [hdecode]
    exact ⟨content, rfl, haddresses⟩

/-- What is kept of a table is what the registry had of it. -/
theorem HasTable.withRecord (h : r.HasTable table addresses) {other : Key}
    (hnone : r.tableRecord other = .ok none) {account : AccountInfo} {content : LookupTable}
    (haccount : r.reader.account r.asked other = .ok (some account))
    (hdecode : LookupTable.decode account.data = .ok content) :
    (r.withRecord other.text .lookupTable content.toJson).HasTable table addresses := by
  by_cases hother : table = other
  · subst hother
    cases h with
    | kept hkept =>
      rw [hnone] at hkept
      cases hkept
    | told _ htells =>
      -- the node told of the table just now, so what is kept has its addresses
      obtain ⟨account', content', haccount', hdecode', haddresses⟩ := htells r.asked
      obtain rfl : account = account' :=
        Option.some.inj (Except.ok.inj (haccount.symm.trans haccount'))
      obtain rfl : content = content' := Except.ok.inj (hdecode.symm.trans hdecode')
      exact .kept (tableRecord_withRecord_self r table content) haddresses
  · exact h.congr rfl (tableRecord_withRecord_ne hother r content)

theorem lookupTable_keepsTables (table : Key) : keepsTables.Allows (lookupTable table).run := by
  rw [Frame.allows_run]
  intro r
  have hasked : keepsTables.rel r (r.withAsked (.account table)) :=
    keepsTables_of_asks (onlyAsks_withAsked r _)
  cases hrecord : r.tableRecord table with
  | error e =>
    rw [runOn_lookupTable_unread hrecord]
    exact keepsTables.refl r
  | ok found =>
    cases found with
    | some content =>
      rw [runOn_lookupTable_kept hrecord]
      exact keepsTables.refl r
    | none =>
      rw [runOn_lookupTable_told hrecord]
      cases haccount : r.reader.account r.asked table with
      | error text => exact hasked
      | ok found =>
        cases found with
        | none => exact hasked
        | some account =>
          dsimp only
          cases hdecode : LookupTable.decode account.data with
          | error e => exact hasked
          | ok content =>
            -- only here is anything written
            intro table' addresses h
            exact (h.withRecord hrecord haccount hdecode).congr rfl rfl

/-! ## Resolving -/

/-- An account number stands for a key: a static one, or an entry of a table
    that the registry has. -/
inductive HasKey (r : Registry) (static : List Key) (lookups : List TableLookup) (index : Nat)
    (key : Key) : Prop where
  | static : static[index]? = some key → HasKey r static lookups index key
  | entry {entry : TableEntry} {addresses : List Key} : static.length ≤ index →
      (flattenLookups lookups)[index - static.length]? = some entry →
      r.HasTable entry.table addresses → addresses[entry.index.toNat]? = some key →
      HasKey r static lookups index key

variable {static : List Key} {lookups : List TableLookup} {index : Nat} {key : Key}

theorem HasKey.of_keepsTables (h : r.HasKey static lookups index key)
    (hkeeps : keepsTables.rel r r') : r'.HasKey static lookups index key := by
  cases h with
  | static hkey => exact .static hkey
  | entry hle hentry htable haddress => exact .entry hle hentry (hkeeps _ _ htable) haddress

/-- Such a number is resolved to its key. -/
theorem HasKey.resolveIndex (h : r.HasKey static lookups index key) :
    (runOn (resolveIndex static lookups index) r).1 = .ok key := by
  cases h with
  | static hkey =>
    unfold Registry.resolveIndex
    rw [hkey]
    rfl
  | entry hle hentry htable haddress =>
    have hstatic : static[index]? = none := List.getElem?_eq_none hle
    obtain ⟨content, hcontent, rfl⟩ := htable.lookup
    unfold Registry.resolveIndex
    rw [hstatic]
    dsimp only
    rw [hentry]
    dsimp only
    rw [runOn_bind_ok (Prod.ext hcontent rfl), haddress]
    rfl

/-- A position whose number stands for a key is resolved to it. -/
theorem HasKey.resolve {e : Envelope} {ix : CompiledInstruction} {position : Nat} {n : UInt8}
    (hn : ix.accounts[position]? = some n)
    (h : r.HasKey e.accountKeys e.tableLookups n.toNat key) :
    (runOn (resolve e ix position) r).1 = .ok key := by
  rw [resolve_eq, hn]
  exact h.resolveIndex

/-- Resolving takes no table away. -/
theorem resolve_keepsTables (e : Envelope) (ix : CompiledInstruction) (position : Nat) :
    keepsTables.Allows (Registry.resolve e ix position).run :=
  allows_resolve lookupTable_keepsTables e ix position

end PoolWatch.Registry
