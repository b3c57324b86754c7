import PoolWatch.Proofs.Registry.Knowledge

/-! # What looks at the chain add

    A look at the chain asks for accounts and balances, never for a block
    hash, and what it learns of tables and pools is added to what is kept:
    no text that is there is changed, and none of another kind is written.
    This is so whatever the node answers, and wherever a look is broken off. -/

namespace PoolWatch

/-- How often a block hash was asked for. -/
def Registry.hashReads (r : Registry) : Nat :=
  r.asked.count .blockhash

/-- A node whose block hash depends on how often one was asked for, and on
    no other question. -/
def Reader.CountsHashes (r : Reader) : Prop :=
  ∀ past past' : List Query, past.count .blockhash = past'.count .blockhash →
    r.blockhash past = r.blockhash past'

namespace Registry

variable {ε α : Type}

/-! ## Questions -/

/-- The node and the store stay, and no block hash is asked for. -/
def asksAccounts : Frame Registry :=
  Frame.ofView fun r => (r.reader, r.store, r.hashReads)

theorem hashReads_withAsked {q : Query} (h : q ≠ .blockhash) (r : Registry) :
    (r.withAsked q).hashReads = r.hashReads :=
  List.count_cons_of_ne h

theorem asksAccounts_withAsked {q : Query} (h : q ≠ .blockhash) (r : Registry) :
    asksAccounts.rel r (r.withAsked q) :=
  Prod.ext rfl (Prod.ext rfl (hashReads_withAsked h r))

theorem asks_readAccount (address : Key) :
    asksAccounts.Allows (readAccount address : RegistryM ε _).run :=
  fun r => asksAccounts_withAsked (q := .account address) nofun r

theorem asks_accountData (address : Key) : asksAccounts.Allows (accountData address).run := by
  refine Frame.allows_run_bind (asks_readAccount address) fun answer => ?_
  refine Frame.allows_run_bind (allows_orThrow _ _) fun found => ?_
  cases found with
  | some account => exact Frame.allows_run_pure account.data
  | none => exact Frame.allows_run_throw _

theorem asks_nativeBalance (keys : PoolKeys) : asksAccounts.Allows (nativeBalance keys).run := by
  refine Frame.allows_run_bind (allows_mint keys) fun found => ?_
  have hbalance : ∀ vault, asksAccounts.Allows (readBalance vault : RegistryM PoolError _).run :=
    fun vault r => asksAccounts_withAsked (q := .balance vault) nofun r
  refine Frame.allows_run_bind (hbalance _) fun answer => ?_
  exact allows_orThrow _ _

theorem asks_fetchTable (table : Key) : asksAccounts.Allows (fetchTable table).run := by
  refine Frame.allows_run_bind (asks_readAccount table) fun answer => ?_
  refine Frame.allows_run_bind (allows_orThrow _ _) fun found => ?_
  cases found with
  | none => exact Frame.allows_run_throw _
  | some account => exact allows_orThrow _ _

theorem asks_fetchPool (venue : Key) : asksAccounts.Allows (fetchPool venue).run := by
  refine Frame.allows_run_bind (asks_accountData venue) fun data => ?_
  refine Frame.allows_run_bind (allows_orThrow _ _) fun pool => ?_
  refine Frame.allows_run_bind (asks_accountData pool.marketId) fun data => ?_
  exact Frame.allows_run_bind (allows_orThrow _ _) fun market => Frame.allows_run_pure _

/-! ## Additions -/

/-- Whether a field is one that looks at the chain are kept in. -/
def IsLookField (name : String) : Prop :=
  name = Store.Field.lookupTable.name ∨ name = Store.Field.poolKeys.name

/-- No tracker and no ledger is kept in such a field. -/
theorem IsLookField.exists_field {name : String} (h : IsLookField name) :
    ∃ field : Store.Field, name = field.name ∧ field ≠ .tracker ∧ field ≠ .ledger := by
  rcases h with rfl | rfl
  · exact ⟨.lookupTable, rfl, nofun, nofun⟩
  · exact ⟨.poolKeys, rfl, nofun, nofun⟩

theorem not_isLookField {field : Store.Field} (h : field = .tracker ∨ field = .ledger) :
    ¬ IsLookField field.name := by
  intro hlook
  obtain ⟨other, hname, htracker, hledger⟩ := hlook.exists_field
  obtain rfl := Store.Field.name_inj.1 hname
  exact h.elim htracker hledger

/-- What looks at the chain make of a registry: no text that there is changes,
    and only tables and pools are added. -/
structure Adds (r r' : Registry) : Prop where
  reader : r'.reader = r.reader
  hashReads : r'.hashReads = r.hashReads
  kept : ∀ key name, r.store.get? key name ≠ none →
    r'.store.get? key name = r.store.get? key name
  others : ∀ key name, ¬ IsLookField name → r'.store.get? key name = r.store.get? key name

/-- Tables and pools are added, and no block hash is asked for. -/
def onlyAdds : Frame Registry where
  rel := Adds
  refl _ := ⟨rfl, rfl, fun _ _ _ => rfl, fun _ _ _ => rfl⟩
  trans h h' :=
    { reader := h'.reader.trans h.reader
      hashReads := h'.hashReads.trans h.hashReads
      kept := fun key name hsome => by
        have hfirst := h.kept key name hsome
        exact (h'.kept key name (hfirst ▸ hsome)).trans hfirst
      others := fun key name hname => (h'.others key name hname).trans (h.others key name hname) }

theorem adds_of_asks {r r' : Registry} (h : asksAccounts.rel r r') : Adds r r' := by
  obtain ⟨hreader, hrest⟩ := Prod.mk.inj h
  obtain ⟨hstore, hhashes⟩ := Prod.mk.inj hrest
  exact ⟨hreader, hhashes, fun _ _ _ => by rw [hstore], fun _ _ _ => by rw [hstore]⟩

/-- A record is added where there was none. -/
theorem adds_withRecord {r : Registry} {key : String} {field : Store.Field}
    (hfield : IsLookField field.name) (hnone : r.store.get? key field.name = none)
    (record : Json) : Adds r (r.withRecord key field record) where
  reader := rfl
  hashReads := rfl
  kept key' name hsome := by
    have hother : ¬ (key' = key ∧ name = field.name) := by
      rintro ⟨rfl, rfl⟩
      exact hsome hnone
    rw [store_withRecord, Store.putRecord, Store.get?_set, if_neg hother]
  others key' name hname := by
    have hother : ¬ (key' = key ∧ name = field.name) := by
      rintro ⟨-, rfl⟩
      exact hname hfield
    rw [store_withRecord, Store.putRecord, Store.get?_set, if_neg hother]

/-- What is looked up is added once all that it needs was told. -/
theorem adds_lookUp {read : Json → Option α} {write : α → Json} {wrap : StoreError → ε}
    {key : String} {field : Store.Field} {fetch : RegistryM ε α}
    (hfield : IsLookField field.name) (hfetch : asksAccounts.Allows fetch.run) :
    onlyAdds.Allows (lookUp read write wrap key field fetch).run := by
  rw [Frame.allows_run]
  intro r
  cases hrecord : r.store.record? read key field with
  | error e =>
    rw [runOn_lookUp_unread hrecord]
    exact onlyAdds.refl r
  | ok found =>
    cases found with
    | some a =>
      rw [runOn_lookUp_kept hrecord]
      exact onlyAdds.refl r
    | none =>
      rcases hrun : runOn fetch r with ⟨e | a, r'⟩
      · rw [runOn_lookUp_refused hrecord hrun]
        exact adds_of_asks (hfetch.rel_of_runOn hrun)
      · have hasks := hfetch.rel_of_runOn hrun
        have hstore : r'.store = r.store := (Prod.mk.inj (Prod.mk.inj hasks).2).1
        have hnone : r'.store.get? key field.name = none := by
          rw [hstore]
          exact Store.record?_eq_none_iff.1 hrecord
        rw [runOn_lookUp_fetched hrecord hrun]
        exact onlyAdds.trans (adds_of_asks hasks) (adds_withRecord hfield hnone (write a))

theorem adds_lookupTable (table : Key) : onlyAdds.Allows (lookupTable table).run := by
  rw [lookupTable_eq]
  exact adds_lookUp (.inl rfl) (asks_fetchTable table)

theorem adds_poolKeys (venue : Key) : onlyAdds.Allows (poolKeys venue).run := by
  rw [poolKeys_eq]
  exact adds_lookUp (.inr rfl) (asks_fetchPool venue)

theorem adds_nativeBalance (keys : PoolKeys) : onlyAdds.Allows (nativeBalance keys).run :=
  fun r => adds_of_asks (asks_nativeBalance keys r)

theorem adds_resolve (e : Envelope) (ix : CompiledInstruction) (position : Nat) :
    onlyAdds.Allows (resolve e ix position).run :=
  allows_resolve adds_lookupTable e ix position

end Registry

end PoolWatch
