import PoolWatch.Proofs.Registry.Tables
import PoolWatch.Proofs.Account.Layout

/-! # Pools that are known

    A registry knows a pool when it keeps its keys, or keeps nothing under
    the venue and the node, whenever it is asked, tells of a pool and a
    market that the keys are put together from.  Once keys were looked up
    they are kept, and resolving addresses changes nothing about that. -/

namespace PoolWatch.Registry

/-- The record of a venue's keys. -/
def poolRecord (r : Registry) (venue : Key) : Except StoreError (Option PoolKeys) :=
  r.store.record? PoolKeys.ofJson? venue.text .poolKeys

/-- The node tells of a record with this content, whenever it is asked. -/
def TellsRecord {α : Type} (r : Registry) (codec : Account.Codec α) (address : Key) (a : α) :
    Prop :=
  ∀ asked, ∃ account, r.reader.account asked address = .ok (some account) ∧
    Account.decode codec account.data = .ok a

/-- A pool whose keys are kept, or not yet kept and told by the node. -/
inductive KnowsPool (r : Registry) (venue : Key) (keys : PoolKeys) : Prop where
  | kept : r.poolRecord venue = .ok (some keys) → KnowsPool r venue keys
  | told {pool : Account.PoolState} {market : Account.MarketState} :
      r.poolRecord venue = .ok none → r.TellsRecord Account.PoolState.codec venue pool →
      r.TellsRecord Account.MarketState.codec pool.marketId market →
      keys = .assemble venue pool market → KnowsPool r venue keys

/-- Pools that are known stay known. -/
def keepsPools : Frame Registry where
  rel r r' := ∀ venue keys, r.KnowsPool venue keys → r'.KnowsPool venue keys
  refl _ := fun _ _ => id
  trans h h' := fun venue keys hknows => h' venue keys (h venue keys hknows)

variable {α : Type} {r r' : Registry} {venue : Key} {keys : PoolKeys}

theorem poolRecord_withRecord_self (r : Registry) (venue : Key) (keys : PoolKeys) :
    (r.withRecord venue.text .poolKeys keys.toJson).poolRecord venue = .ok (some keys) :=
  r.store.record?_putRecord_self venue.text .poolKeys keys.plain_toJson
    (PoolKeys.ofJson?_toJson keys)

/-- A look that keeps something else leaves the pool known. -/
theorem KnowsPool.of_onlyWrites {field : Store.Field} (hfield : .poolKeys ≠ field)
    (h : r.KnowsPool venue keys) (hwrites : (onlyWrites field).rel r r') :
    r'.KnowsPool venue keys := by
  obtain ⟨hreader, hcells⟩ := hwrites
  have hrecord : r'.poolRecord venue = r.poolRecord venue :=
    Store.record?_congr (hcells venue.text .poolKeys hfield)
  cases h with
  | kept hkept => exact .kept (hrecord.trans hkept)
  | told hnone hpool hmarket hkeys =>
    unfold TellsRecord at hpool hmarket
    rw [← hreader] at hpool hmarket
    exact .told (hrecord.trans hnone) hpool hmarket hkeys

theorem resolve_keepsPools (e : Envelope) (ix : CompiledInstruction) (position : Nat) :
    keepsPools.Allows (resolve e ix position).run := by
  intro r venue keys hknows
  have hfield : Store.Field.poolKeys ≠ .lookupTable := nofun
  exact hknows.of_onlyWrites hfield (allows_resolve allows_lookupTable e ix position r)

/-- A record reads back as it was written. -/
theorem decode_encode (codec : Account.Codec α) (a : α) :
    Account.decode codec (codec.encode a) = .ok a := by
  have hback := Account.decode_encode_append codec a []
  rwa [List.append_nil] at hback

/-! ## Looking a pool up -/

/-- The data of an account, as the node tells it next. -/
def toldData (r : Registry) (address : Key) : Except PoolError Bytes :=
  match r.reader.account r.asked address with
  | .error text => .error (.remote text)
  | .ok none => .error (.accountNotFound address)
  | .ok (some account) => .ok account.data

theorem runOn_accountData_eq (r : Registry) (address : Key) :
    runOn (accountData address) r = (r.toldData address, r.withAsked (.account address)) := by
  unfold accountData toldData
  rw [runOn_bind_ok (runOn_readAccount address r)]
  cases r.reader.account r.asked address with
  | error text => rw [runOn_bind_error (runOn_orThrow_error _ rfl _)]
  | ok found =>
    rw [runOn_bind_ok (runOn_orThrow_ok _ rfl _)]
    cases found <;> rfl

theorem runOn_accountData {address : Key} {account : AccountInfo}
    (h : r.reader.account r.asked address = .ok (some account)) :
    runOn (accountData address) r = (.ok account.data, r.withAsked (.account address)) := by
  rw [runOn_accountData_eq]
  unfold toldData
  rw [h]

/-- Keys that are kept are answered at once. -/
theorem runOn_poolKeys_kept (h : r.poolRecord venue = .ok (some keys)) :
    runOn (poolKeys venue) r = (.ok keys, r) := by
  unfold poolRecord at h
  unfold poolKeys
  rw [runOn_bind_ok (runOn_get r), runOn_bind_ok (runOn_orThrow_ok _ h r)]
  rfl

/-- The keys of a pool that is known are answered. -/
theorem KnowsPool.poolKeys (h : r.KnowsPool venue keys) :
    (runOn (poolKeys venue) r).1 = .ok keys := by
  cases h with
  | kept hkept => rw [runOn_poolKeys_kept hkept]
  | told hnone hpool hmarket hkeys =>
    -- the market is asked for after the pool
    obtain ⟨account, haccount, hdecode⟩ := hpool r.asked
    obtain ⟨account', haccount', hdecode'⟩ := hmarket (.account venue :: r.asked)
    unfold poolRecord at hnone
    unfold Registry.poolKeys
    rw [runOn_bind_ok (runOn_get r), runOn_bind_ok (runOn_orThrow_ok _ hnone r)]
    dsimp only
    rw [runOn_bind_ok (runOn_accountData haccount), runOn_bind_ok (runOn_orThrow_ok _ hdecode _),
      runOn_bind_ok (runOn_accountData haccount'), runOn_bind_ok (runOn_orThrow_ok _ hdecode' _),
      hkeys]
    rfl

/-- Keys that were answered are kept from then on. -/
theorem knowsPool_of_poolKeys (h : runOn (poolKeys venue) r = (.ok keys, r')) :
    r'.KnowsPool venue keys := by
  unfold poolKeys at h
  rw [runOn_bind_ok (runOn_get r)] at h
  cases hrecord : r.store.record? PoolKeys.ofJson? venue.text .poolKeys with
  | error e =>
    rw [runOn_bind_error (runOn_orThrow_error _ hrecord r)] at h
    cases h
  | ok found =>
    rw [runOn_bind_ok (runOn_orThrow_ok _ hrecord r)] at h
    cases found with
    | some kept =>
      obtain ⟨hkeys, rfl⟩ := Prod.mk.inj h
      obtain rfl : kept = keys := Except.ok.inj hkeys
      exact .kept hrecord
    | none =>
      -- the keys are kept last, once pool and market were read
      obtain ⟨data, r₁, -, h⟩ := runOn_bind_eq_ok h
      obtain ⟨pool, r₂, -, h⟩ := runOn_bind_eq_ok h
      obtain ⟨data', r₃, -, h⟩ := runOn_bind_eq_ok h
      obtain ⟨market, r₄, -, h⟩ := runOn_bind_eq_ok h
      obtain ⟨hkeys, rfl⟩ := Prod.mk.inj h
      obtain rfl : PoolKeys.assemble venue pool market = keys := Except.ok.inj hkeys
      exact .kept (poolRecord_withRecord_self r₄ venue _)

/-! ## Native reserves -/

/-- What the node tells next of the native side of a pool. -/
def TellsReserve (r : Registry) (keys : PoolKeys) (reserve : UInt64) : Prop :=
  ∃ vault, keys.nativeVault? = some vault ∧ r.reader.balance r.asked vault = .ok reserve

theorem runOn_nativeBalance_some {vault : Key} (h : keys.nativeVault? = some vault) :
    runOn (nativeBalance keys) r =
      ((r.reader.balance r.asked vault).mapError .remote, r.withAsked (.balance vault)) := by
  unfold PoolKeys.nativeVault? at h
  obtain ⟨⟨other, nativeIsBase⟩, hmint, rfl⟩ := Option.map_eq_some_iff.1 h
  unfold nativeBalance mint
  rw [hmint]
  dsimp only
  cases hbalance : r.reader.balance r.asked
      (if nativeIsBase = true then keys.baseVault else keys.quoteVault) with
  | error text => exact runOn_orThrow_error _ hbalance _
  | ok told => exact runOn_orThrow_ok _ hbalance _

theorem runOn_nativeBalance_none (h : keys.nativeVault? = none) :
    runOn (nativeBalance keys) r = (.error .neitherMintIsNative, r) := by
  unfold nativeBalance mint
  rw [Option.map_eq_none_iff.1 h]
  rfl

/-- A reserve that is answered was told by the node. -/
theorem tellsReserve_of_nativeBalance {reserve : UInt64}
    (h : runOn (nativeBalance keys) r = (.ok reserve, r')) : r.TellsReserve keys reserve := by
  cases hvault : keys.nativeVault? with
  | none =>
    rw [runOn_nativeBalance_none hvault] at h
    cases h
  | some vault =>
    rw [runOn_nativeBalance_some hvault] at h
    refine ⟨vault, hvault, ?_⟩
    cases hbalance : r.reader.balance r.asked vault with
    | error text =>
      rw [hbalance] at h
      cases h
    | ok told =>
      rw [hbalance] at h
      exact congrArg Except.ok (Except.ok.inj (Prod.mk.inj h).1)

/-! ## Names -/

/-- The keys that are kept under a venue are that venue's. -/
def NamesPools (r : Registry) : Prop :=
  ∀ venue keys, r.poolRecord venue = .ok (some keys) → keys.id = venue

theorem NamesPools.congr (h : r.NamesPools)
    (hcells : ∀ key, r'.store.get? key Store.Field.poolKeys.name =
      r.store.get? key Store.Field.poolKeys.name) : r'.NamesPools := by
  intro venue keys hkeys
  have hrecord : r'.poolRecord venue = r.poolRecord venue := Store.record?_congr (hcells venue.text)
  exact h venue keys (hrecord.symm.trans hkeys)

theorem namesPools_empty (hstore : r.store = .empty) : r.NamesPools := by
  intro venue keys hkeys
  unfold poolRecord at hkeys
  rw [hstore, Store.record?_empty] at hkeys
  cases hkeys

theorem resolve_namesPools (e : Envelope) (ix : CompiledInstruction) (position : Nat) :
    (Frame.ofProperty NamesPools).Allows (resolve e ix position).run := by
  intro r hnames
  obtain ⟨-, hcells⟩ := allows_resolve allows_lookupTable e ix position r
  exact hnames.congr fun key => hcells key .poolKeys nofun

theorem nativeBalance_namesPools (keys : PoolKeys) :
    (Frame.ofProperty NamesPools).Allows (nativeBalance keys).run := by
  intro r hnames
  obtain ⟨-, hstore⟩ := Prod.mk.inj (allows_nativeBalance keys r)
  exact hnames.congr fun key => by rw [hstore]

/-- Keys are put together for the venue that they are kept under. -/
theorem namesPools_withRecord (h : r.NamesPools) (hid : keys.id = venue) :
    (r.withRecord venue.text .poolKeys keys.toJson).NamesPools := by
  intro venue' keys' hkeys
  by_cases hvenue : venue' = venue
  · subst hvenue
    rw [poolRecord_withRecord_self] at hkeys
    obtain rfl := Option.some.inj (Except.ok.inj hkeys)
    exact hid
  · have htext : ¬ (venue'.text = venue.text ∧ Store.Field.poolKeys = .poolKeys) :=
      fun hsame => hvenue (Key.text_inj.1 hsame.1)
    have hother : (r.withRecord venue.text .poolKeys keys.toJson).poolRecord venue' =
        r.poolRecord venue' := Store.record?_putRecord_of_ne _ _ htext
    exact h venue' keys' (hother.symm.trans hkeys)

theorem poolKeys_namesPools (venue : Key) :
    (Frame.ofProperty NamesPools).Allows (poolKeys venue).run := by
  have hasks : ∀ address, (Frame.ofProperty NamesPools).Allows (accountData address).run := by
    intro address r hnames
    obtain ⟨-, hstore⟩ := Prod.mk.inj (allows_accountData address r)
    exact hnames.congr fun key => by rw [hstore]
  refine Frame.allows_run_get_bind fun r => ?_
  refine Frame.allows_run_bind (allows_orThrow _ _) (fun kept => ?_) r
  cases kept with
  | some keys => exact Frame.allows_run_pure keys
  | none =>
    refine Frame.allows_run_bind (hasks venue) fun data => ?_
    refine Frame.allows_run_bind (allows_orThrow _ _) fun pool => ?_
    refine Frame.allows_run_bind (hasks pool.marketId) fun data => ?_
    refine Frame.allows_run_bind (allows_orThrow _ _) fun market => ?_
    refine Frame.allows_run_bind (fun r hnames => ?_) fun _ => Frame.allows_run_pure _
    exact namesPools_withRecord hnames rfl

/-- The keys that are answered for a venue are that venue's. -/
theorem NamesPools.id_of_poolKeys (h : r.NamesPools)
    (hkeys : runOn (poolKeys venue) r = (.ok keys, r')) : keys.id = venue := by
  have hnames : r'.NamesPools := (poolKeys_namesPools venue).rel_of_runOn hkeys h
  cases knowsPool_of_poolKeys hkeys with
  | kept hkept => exact hnames venue keys hkept
  | told _ _ _ hassembled =>
    rw [hassembled]
    rfl

end PoolWatch.Registry
