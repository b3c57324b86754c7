import PoolWatch.Proofs.Frame
import PoolWatch.Proofs.Store.Records
import PoolWatch.Registry.Resolve

/-! # What a look at the chain does

    A look at the chain writes down what it asked of the node, and may keep
    what it learnt: resolving an address keeps lookup tables, and looking up
    a pool keeps its keys.  The node, and the records of any other kind, stay
    as they are. -/

namespace PoolWatch.Registry

variable {ε : Type}

/-! ## Questions -/

/-- The registry with one more question asked. -/
def withAsked (r : Registry) (q : Query) : Registry :=
  { r with asked := q :: r.asked }

/-- The registry with a record kept. -/
def withRecord (r : Registry) (key : String) (field : Store.Field) (record : Json) : Registry :=
  { r with store := r.store.putRecord key field record }

@[simp] theorem store_withAsked (r : Registry) (q : Query) : (r.withAsked q).store = r.store := rfl

@[simp] theorem reader_withAsked (r : Registry) (q : Query) : (r.withAsked q).reader = r.reader :=
  rfl

@[simp] theorem store_withRecord (r : Registry) (key : String) (field : Store.Field)
    (record : Json) :
    (r.withRecord key field record).store = r.store.putRecord key field record := rfl

@[simp] theorem reader_withRecord (r : Registry) (key : String) (field : Store.Field)
    (record : Json) : (r.withRecord key field record).reader = r.reader := rfl

theorem runOn_readAccount (address : Key) (r : Registry) :
    runOn (readAccount address : RegistryM ε _) r =
      (.ok (r.reader.account r.asked address), r.withAsked (.account address)) := rfl

theorem runOn_orThrow_ok {ε' α : Type} (wrap : ε → ε') {x : Except ε α} {a : α}
    (h : x = .ok a) (r : Registry) : runOn (orThrow wrap x) r = (.ok a, r) := by
  rw [h]
  rfl

theorem runOn_orThrow_error {ε' α : Type} (wrap : ε → ε') {x : Except ε α} {e : ε}
    (h : x = .error e) (r : Registry) : runOn (orThrow wrap x) r = (.error (wrap e), r) := by
  rw [h]
  rfl

/-! ## Frames -/

/-- The node stays, and so do all records but those of one kind. -/
def onlyWrites (field : Store.Field) : Frame Registry where
  rel r r' := r'.reader = r.reader ∧
    ∀ key other, other ≠ field → r'.store.get? key other.name = r.store.get? key other.name
  refl _ := ⟨rfl, fun _ _ _ => rfl⟩
  trans h h' := ⟨h'.1.trans h.1, fun key other hne =>
    (h'.2 key other hne).trans (h.2 key other hne)⟩

/-- The node and all records stay. -/
def onlyAsks : Frame Registry :=
  Frame.ofView fun r => (r.reader, r.store)

variable {field : Store.Field}

theorem onlyWrites_of_asks {r r' : Registry} (h : onlyAsks.rel r r') :
    (onlyWrites field).rel r r' := by
  obtain ⟨hreader, hstore⟩ := Prod.mk.inj h
  exact ⟨hreader, fun key other _ => by rw [hstore]⟩

theorem onlyAsks_withAsked (r : Registry) (q : Query) : onlyAsks.rel r (r.withAsked q) := rfl

theorem onlyWrites_withRecord (r : Registry) (key : String) (record : Json) :
    (onlyWrites field).rel r (r.withRecord key field record) := by
  refine ⟨rfl, fun key' other hne => ?_⟩
  rw [store_withRecord, Store.get?_putRecord, if_neg]
  exact fun h => hne h.2

theorem allows_readAccount (address : Key) :
    onlyAsks.Allows (readAccount address : RegistryM ε _).run :=
  fun r => onlyAsks_withAsked r (.account address)

theorem allows_orThrow {F : Frame Registry} {ε' α : Type} (wrap : ε → ε') (x : Except ε α) :
    F.Allows (orThrow wrap x).run := by
  intro r
  cases x <;> exact F.refl r

theorem allows_withRecord (key : String) (record : Json) :
    (onlyWrites field).Allows
      (modify fun r => r.withRecord key field record : RegistryM ε PUnit).run :=
  fun r => onlyWrites_withRecord r key record

theorem Allows.of_asks {α : Type} {op : StateM Registry α} (h : onlyAsks.Allows op) :
    (onlyWrites field).Allows op :=
  fun r => onlyWrites_of_asks (h r)

/-! ## Lookup tables -/

theorem allows_lookupTable (table : Key) :
    (onlyWrites .lookupTable).Allows (lookupTable table).run := by
  refine Frame.allows_run_get_bind fun r => ?_
  refine Frame.allows_run_bind (allows_orThrow _ _) (fun kept => ?_) r
  cases kept with
  | some content => exact Frame.allows_run_pure content
  | none =>
    refine Frame.allows_run_bind (Allows.of_asks (allows_readAccount table)) fun answer => ?_
    refine Frame.allows_run_bind (allows_orThrow _ _) fun found => ?_
    cases found with
    | none => exact Frame.allows_run_throw _
    | some account =>
      refine Frame.allows_run_bind (allows_orThrow _ _) fun content => ?_
      refine Frame.allows_run_bind (allows_withRecord _ _) fun _ => ?_
      exact Frame.allows_run_pure content

/-- Resolving an index does nothing but look tables up. -/
theorem allows_resolveIndex {F : Frame Registry} (h : ∀ table, F.Allows (lookupTable table).run)
    (static : List Key) (lookups : List TableLookup) (index : Nat) :
    F.Allows (resolveIndex static lookups index).run := by
  unfold resolveIndex
  cases static[index]? with
  | some key => exact Frame.allows_run_pure key
  | none =>
    dsimp only
    cases (flattenLookups lookups)[index - static.length]? with
    | none => exact Frame.allows_run_throw _
    | some entry =>
      refine Frame.allows_run_bind (h entry.table) fun content => ?_
      cases content.addresses[entry.index.toNat]? with
      | some key => exact Frame.allows_run_pure key
      | none => exact Frame.allows_run_throw _

/-- A position is resolved through its index, if it has one. -/
theorem resolve_eq (e : Envelope) (ix : CompiledInstruction) (position : Nat) :
    resolve e ix position =
      match ix.accounts[position]? with
      | some index => resolveIndex e.accountKeys e.tableLookups index.toNat
      | none =>
        throw (if ix.accounts.isEmpty then .noAccountIndexes
          else .indexOutOfRange position ix.accounts.length) := by
  unfold resolve
  cases haccounts : ix.accounts with
  | nil => rfl
  | cons first rest =>
    cases (first :: rest)[position]? <;> rfl

/-- Resolving an address does nothing but look tables up. -/
theorem allows_resolve {F : Frame Registry} (h : ∀ table, F.Allows (lookupTable table).run)
    (e : Envelope) (ix : CompiledInstruction) (position : Nat) :
    F.Allows (resolve e ix position).run := by
  rw [resolve_eq]
  cases ix.accounts[position]? with
  | none => exact Frame.allows_run_throw _
  | some index => exact allows_resolveIndex h e.accountKeys e.tableLookups index.toNat

/-! ## Pools -/

theorem allows_accountData (address : Key) : onlyAsks.Allows (accountData address).run := by
  refine Frame.allows_run_bind (allows_readAccount address) fun answer => ?_
  refine Frame.allows_run_bind (allows_orThrow _ _) fun found => ?_
  cases found with
  | some account => exact Frame.allows_run_pure account.data
  | none => exact Frame.allows_run_throw _

/-- Looking up a pool keeps the keys of pools and nothing else. -/
theorem allows_poolKeys (venue : Key) : (onlyWrites .poolKeys).Allows (poolKeys venue).run := by
  refine Frame.allows_run_get_bind fun r => ?_
  refine Frame.allows_run_bind (allows_orThrow _ _) (fun kept => ?_) r
  cases kept with
  | some keys => exact Frame.allows_run_pure keys
  | none =>
    -- two questions, and one record at the end
    refine Frame.allows_run_bind (Allows.of_asks (allows_accountData venue)) fun data => ?_
    refine Frame.allows_run_bind (allows_orThrow _ _) fun pool => ?_
    refine Frame.allows_run_bind (Allows.of_asks (allows_accountData pool.marketId)) fun data => ?_
    refine Frame.allows_run_bind (allows_orThrow _ _) fun market => ?_
    refine Frame.allows_run_bind (allows_withRecord _ _) fun _ => ?_
    exact Frame.allows_run_pure _

theorem allows_mint {F : Frame Registry} (keys : PoolKeys) : F.Allows (mint keys).run := by
  unfold mint
  cases keys.mint? with
  | some found => exact Frame.allows_run_pure found
  | none => exact Frame.allows_run_throw _

theorem allows_nativeBalance (keys : PoolKeys) : onlyAsks.Allows (nativeBalance keys).run := by
  refine Frame.allows_run_bind (allows_mint keys) fun found => ?_
  refine Frame.allows_run_bind (fun r => onlyAsks_withAsked r _) fun answer => ?_
  exact allows_orThrow _ _

end PoolWatch.Registry
