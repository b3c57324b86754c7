import PoolWatch.Proofs.Registry.Pools
import PoolWatch.Proofs.Tandem

/-! # What can be known of the chain

    Tables and pools are looked up: the record is answered if there is one,
    and what is fetched in its place is kept.  When the node answers every
    question as a fixed function of the address, it makes no difference when
    something is looked up for the first time: the answer, and the record that
    is there afterwards, are the same before and after any look at the chain
    (`Knows`).

    So two registries that know the same answer the same, and what they come
    to keep on the way is the same. -/

namespace PoolWatch.Registry

open Account (LookupTable)

/-! ## Fetching -/

section Fetching

variable {ε α β : Type} {r r' : Registry}

/-- An operation that only asks, and that a fixed node answers the same
    whenever it asks. -/
structure Fetches (op : RegistryM ε α) : Prop where
  asks : onlyAsks.Allows op.run
  answer : ∀ {r r' : Registry}, r.reader.IsFixed → r'.reader = r.reader →
    (runOn op r').1 = (runOn op r).1

theorem fetches_pure (a : α) : Fetches (pure a : RegistryM ε α) :=
  ⟨Frame.allows_run_pure a, fun _ _ => rfl⟩

theorem fetches_throw (e : ε) : Fetches (throw e : RegistryM ε α) :=
  ⟨Frame.allows_run_throw e, fun _ _ => rfl⟩

theorem fetches_bind {op : RegistryM ε α} {next : α → RegistryM ε β} (h : Fetches op)
    (hnext : ∀ a, Fetches (next a)) : Fetches (op >>= next) := by
  refine ⟨Frame.allows_run_bind h.asks fun a => (hnext a).asks, fun {r r'} hfixed hreader => ?_⟩
  have hanswer := h.answer hfixed hreader
  rcases hop : runOn op r with ⟨x, s⟩
  rcases hop' : runOn op r' with ⟨x', s'⟩
  -- the node is still the same, so the rest is answered the same as well
  obtain ⟨hs, -⟩ := Prod.mk.inj (h.asks.rel_of_runOn hop)
  obtain ⟨hs', -⟩ := Prod.mk.inj (h.asks.rel_of_runOn hop')
  rw [hop, hop'] at hanswer
  obtain rfl : x' = x := hanswer
  cases x' with
  | error e => rw [runOn_bind_error hop, runOn_bind_error hop']
  | ok a =>
    rw [runOn_bind_ok hop, runOn_bind_ok hop']
    exact (hnext a).answer (hs ▸ hfixed) (hs'.trans (hreader.trans hs.symm))

theorem fetches_orThrow {ε' : Type} (wrap : ε → ε') (x : Except ε α) :
    Fetches (orThrow wrap x) := by
  cases x with
  | ok a => exact fetches_pure a
  | error e => exact fetches_throw (wrap e)

theorem fetches_readAccount (address : Key) :
    Fetches (readAccount address : RegistryM ε _) where
  asks := allows_readAccount address
  answer {r r'} hfixed hreader := by
    rw [runOn_readAccount, runOn_readAccount, hreader]
    exact congrArg Except.ok (hfixed.account _ _ address)

theorem fetches_accountData (address : Key) : Fetches (accountData address) := by
  refine fetches_bind (fetches_readAccount address) fun answer => ?_
  refine fetches_bind (fetches_orThrow _ _) fun found => ?_
  cases found with
  | some account => exact fetches_pure account.data
  | none => exact fetches_throw _

theorem fetches_nativeBalance (keys : PoolKeys) : Fetches (nativeBalance keys) := by
  refine ⟨allows_nativeBalance keys, fun {r r'} hfixed hreader => ?_⟩
  cases hvault : keys.nativeVault? with
  | none => rw [runOn_nativeBalance_none hvault, runOn_nativeBalance_none hvault]
  | some vault =>
    rw [runOn_nativeBalance_some hvault, runOn_nativeBalance_some hvault, hreader,
      hfixed.balance r'.asked r.asked vault]

end Fetching

/-! ## Looking up -/

/-- The record at a key; without one, what is fetched, which is then kept. -/
def lookUp {ε α : Type} (read : Json → Option α) (write : α → Json) (wrap : StoreError → ε)
    (key : String) (field : Store.Field) (fetch : RegistryM ε α) : RegistryM ε α := do
  let r ← get
  match ← orThrow wrap (r.store.record? read key field) with
  | some kept => pure kept
  | none =>
    let a ← fetch
    modify fun r => r.withRecord key field (write a)
    pure a

/-- All records but the one at a key stay, and so does the node. -/
def onlyWritesAt (key : String) (field : Store.Field) : Frame Registry where
  rel r r' := r'.reader = r.reader ∧
    ∀ key' other, ¬ (key' = key ∧ other = field) →
      r'.store.get? key' other.name = r.store.get? key' other.name
  refl _ := ⟨rfl, fun _ _ _ => rfl⟩
  trans h h' := ⟨h'.1.trans h.1, fun key' other hne =>
    (h'.2 key' other hne).trans (h.2 key' other hne)⟩

/-- What an operation answers, and the text that is then at a key. -/
def outcomeAt {ε α : Type} (op : RegistryM ε α) (key : String) (field : Store.Field)
    (r : Registry) : Except ε α × Option String :=
  ((runOn op r).1, (runOn op r).2.store.get? key field.name)

section LookingUp

variable {ε α : Type} {read : Json → Option α} {write : α → Json} {wrap : StoreError → ε}
  {key : String} {field : Store.Field} {fetch : RegistryM ε α} {r r' : Registry}

theorem runOn_lookUp_kept {a : α} (h : r.store.record? read key field = .ok (some a)) :
    runOn (lookUp read write wrap key field fetch) r = (.ok a, r) := by
  unfold lookUp
  rw [runOn_bind_ok (runOn_get r), runOn_bind_ok (runOn_orThrow_ok _ h r)]
  rfl

theorem runOn_lookUp_unread {e : StoreError} (h : r.store.record? read key field = .error e) :
    runOn (lookUp read write wrap key field fetch) r = (.error (wrap e), r) := by
  unfold lookUp
  rw [runOn_bind_ok (runOn_get r), runOn_bind_error (runOn_orThrow_error _ h r)]

theorem runOn_lookUp_refused {e : ε} (h : r.store.record? read key field = .ok none)
    (hfetch : runOn fetch r = (.error e, r')) :
    runOn (lookUp read write wrap key field fetch) r = (.error e, r') := by
  unfold lookUp
  rw [runOn_bind_ok (runOn_get r), runOn_bind_ok (runOn_orThrow_ok _ h r)]
  exact runOn_bind_error hfetch _

theorem runOn_lookUp_fetched {a : α} (h : r.store.record? read key field = .ok none)
    (hfetch : runOn fetch r = (.ok a, r')) :
    runOn (lookUp read write wrap key field fetch) r =
      (.ok a, r'.withRecord key field (write a)) := by
  unfold lookUp
  rw [runOn_bind_ok (runOn_get r), runOn_bind_ok (runOn_orThrow_ok _ h r)]
  exact runOn_bind_ok hfetch _

theorem onlyWritesAt_of_asks (h : onlyAsks.rel r r') : (onlyWritesAt key field).rel r r' := by
  obtain ⟨hreader, hstore⟩ := Prod.mk.inj h
  exact ⟨hreader, fun key' other _ => by rw [hstore]⟩

theorem allows_lookUp (hfetch : Fetches fetch) :
    (onlyWritesAt key field).Allows (lookUp read write wrap key field fetch).run := by
  refine Frame.allows_run_get_bind fun r => ?_
  refine Frame.allows_run_bind (allows_orThrow _ _) (fun kept => ?_) r
  cases kept with
  | some a => exact Frame.allows_run_pure a
  | none =>
    refine Frame.allows_run_bind (fun r => onlyWritesAt_of_asks (hfetch.asks r)) fun a => ?_
    refine Frame.allows_run_bind (fun r => ⟨rfl, fun key' other hne => ?_⟩) fun _ =>
      Frame.allows_run_pure a
    exact (Store.get?_putRecord ..).trans (if_neg hne)

/-- What is looked up depends on the node and on the record. -/
theorem outcomeAt_lookUp_congr (hfetch : Fetches fetch) (hfixed : r.reader.IsFixed)
    (hreader : r'.reader = r.reader)
    (hcell : r'.store.get? key field.name = r.store.get? key field.name) :
    outcomeAt (lookUp read write wrap key field fetch) key field r' =
      outcomeAt (lookUp read write wrap key field fetch) key field r := by
  have hrecord : r'.store.record? read key field = r.store.record? read key field :=
    Store.record?_congr hcell
  unfold outcomeAt
  cases hfound : r.store.record? read key field with
  | error e => rw [runOn_lookUp_unread hfound, runOn_lookUp_unread (hrecord.trans hfound), hcell]
  | ok found =>
    cases found with
    | some a => rw [runOn_lookUp_kept hfound, runOn_lookUp_kept (hrecord.trans hfound), hcell]
    | none =>
      have hanswer := hfetch.answer hfixed hreader
      rcases hrun : runOn fetch r with ⟨x, s⟩
      rcases hrun' : runOn fetch r' with ⟨x', s'⟩
      rw [hrun, hrun'] at hanswer
      obtain rfl : x' = x := hanswer
      cases x' with
      | error e =>
        -- a question leaves the records as they are
        obtain ⟨-, hs⟩ := Prod.mk.inj (hfetch.asks.rel_of_runOn hrun)
        obtain ⟨-, hs'⟩ := Prod.mk.inj (hfetch.asks.rel_of_runOn hrun')
        rw [runOn_lookUp_refused hfound hrun, runOn_lookUp_refused (hrecord.trans hfound) hrun',
          hs, hs', hcell]
      | ok a =>
        rw [runOn_lookUp_fetched hfound hrun, runOn_lookUp_fetched (hrecord.trans hfound) hrun']
        simp [Store.get?_putRecord]

/-- To look up once more gives the same. -/
theorem outcomeAt_lookUp_again (hfetch : Fetches fetch) (hfixed : r.reader.IsFixed)
    (hplain : ∀ a, (write a).Plain) (hread : ∀ a, read (write a) = some a) :
    outcomeAt (lookUp read write wrap key field fetch) key field
        (runOn (lookUp read write wrap key field fetch) r).2 =
      outcomeAt (lookUp read write wrap key field fetch) key field r := by
  cases hfound : r.store.record? read key field with
  | error e => rw [runOn_lookUp_unread hfound]
  | ok found =>
    cases found with
    | some a => rw [runOn_lookUp_kept hfound]
    | none =>
      rcases hrun : runOn fetch r with ⟨x, s⟩
      obtain ⟨hreader, hstore⟩ := Prod.mk.inj (hfetch.asks.rel_of_runOn hrun)
      cases x with
      | error e =>
        rw [runOn_lookUp_refused hfound hrun]
        exact outcomeAt_lookUp_congr hfetch hfixed hreader (by rw [hstore])
      | ok a =>
        -- what was fetched is kept by now
        have hkept : (s.withRecord key field (write a)).store.record? read key field =
            .ok (some a) := s.store.record?_putRecord_self key field (hplain a) (hread a)
        unfold outcomeAt
        rw [runOn_lookUp_fetched hfound hrun, runOn_lookUp_kept hkept]

end LookingUp

/-! ## Tables and pools -/

/-- What the node tells of a lookup table. -/
def fetchTable (table : Key) : RegistryM ResolveError LookupTable := do
  match ← orThrow .remote (← readAccount table) with
  | none => throw (.tableNotFound table)
  | some account => orThrow .decode (LookupTable.decode account.data)

/-- What the node tells of a pool and its market. -/
def fetchPool (venue : Key) : RegistryM PoolError PoolKeys := do
  let pool ← orThrow .decode (Account.decode Account.PoolState.codec (← accountData venue))
  let market ←
    orThrow .decode (Account.decode Account.MarketState.codec (← accountData pool.marketId))
  pure (.assemble venue pool market)

theorem lookupTable_eq (table : Key) :
    lookupTable table =
      lookUp LookupTable.ofJson? LookupTable.toJson .store table.text .lookupTable
        (fetchTable table) := by
  unfold lookupTable lookUp fetchTable
  refine bind_congr fun r => bind_congr fun kept => ?_
  cases kept with
  | some content => rfl
  | none =>
    simp only [bind_assoc]
    refine bind_congr fun answer => bind_congr fun found => ?_
    cases found <;> rfl

theorem poolKeys_eq (venue : Key) :
    poolKeys venue =
      lookUp PoolKeys.ofJson? PoolKeys.toJson .store venue.text .poolKeys (fetchPool venue) := by
  unfold poolKeys lookUp fetchPool
  refine bind_congr fun r => bind_congr fun kept => ?_
  cases kept with
  | some keys => rfl
  | none =>
    simp only [bind_assoc, pure_bind]
    rfl

theorem fetches_table (table : Key) : Fetches (fetchTable table) := by
  refine fetches_bind (fetches_readAccount table) fun answer => ?_
  refine fetches_bind (fetches_orThrow _ _) fun found => ?_
  cases found with
  | none => exact fetches_throw _
  | some account => exact fetches_orThrow _ _

theorem fetches_pool (venue : Key) : Fetches (fetchPool venue) := by
  refine fetches_bind (fetches_accountData venue) fun data => ?_
  refine fetches_bind (fetches_orThrow _ _) fun pool => ?_
  refine fetches_bind (fetches_accountData pool.marketId) fun data => ?_
  exact fetches_bind (fetches_orThrow _ _) fun market => fetches_pure _

/-! ## Knowledge -/

/-- What is answered of each table and each pool, and the text that is then
    kept of it. -/
structure Knowledge where
  reader : Reader
  table : Key → Except ResolveError LookupTable × Option String
  pool : Key → Except PoolError PoolKeys × Option String

/-- What can be known from a registry. -/
def knowledge (r : Registry) : Knowledge where
  reader := r.reader
  table t := outcomeAt (lookupTable t) t.text .lookupTable r
  pool v := outcomeAt (poolKeys v) v.text .poolKeys r

/-- A registry whose node is fixed, and from which this can be known. -/
structure Knows (K : Knowledge) (r : Registry) : Prop where
  fixed : r.reader.IsFixed
  knowledge_eq : r.knowledge = K

section Knows

variable {K : Knowledge} {r r' : Registry} {t venue : Key}

theorem Knows.table_answer (h : Knows K r) (t : Key) :
    (runOn (lookupTable t) r).1 = (K.table t).1 := by
  rw [← h.knowledge_eq]
  rfl

theorem Knows.table_text (h : Knows K r) (t : Key) :
    (runOn (lookupTable t) r).2.store.get? t.text Store.Field.lookupTable.name =
      (K.table t).2 := by
  rw [← h.knowledge_eq]
  rfl

theorem Knows.pool_answer (h : Knows K r) (venue : Key) :
    (runOn (poolKeys venue) r).1 = (K.pool venue).1 := by
  rw [← h.knowledge_eq]
  rfl

theorem Knows.pool_text (h : Knows K r) (venue : Key) :
    (runOn (poolKeys venue) r).2.store.get? venue.text Store.Field.poolKeys.name =
      (K.pool venue).2 := by
  rw [← h.knowledge_eq]
  rfl

theorem Knows.reader (h : Knows K r) : r.reader = K.reader :=
  congrArg Knowledge.reader h.knowledge_eq

theorem outcomeAt_lookupTable_congr (hfixed : r.reader.IsFixed) (hreader : r'.reader = r.reader)
    (hcell : r'.store.get? t.text Store.Field.lookupTable.name =
      r.store.get? t.text Store.Field.lookupTable.name) :
    outcomeAt (lookupTable t) t.text .lookupTable r' =
      outcomeAt (lookupTable t) t.text .lookupTable r := by
  rw [lookupTable_eq]
  exact outcomeAt_lookUp_congr (fetches_table t) hfixed hreader hcell

theorem outcomeAt_poolKeys_congr (hfixed : r.reader.IsFixed) (hreader : r'.reader = r.reader)
    (hcell : r'.store.get? venue.text Store.Field.poolKeys.name =
      r.store.get? venue.text Store.Field.poolKeys.name) :
    outcomeAt (poolKeys venue) venue.text .poolKeys r' =
      outcomeAt (poolKeys venue) venue.text .poolKeys r := by
  rw [poolKeys_eq]
  exact outcomeAt_lookUp_congr (fetches_pool venue) hfixed hreader hcell

/-- The same is known when the node and what is kept of tables and pools stay. -/
theorem Knows.congr (h : Knows K r) (hreader : r'.reader = r.reader)
    (htables : ∀ t : Key, r'.store.get? t.text Store.Field.lookupTable.name =
      r.store.get? t.text Store.Field.lookupTable.name)
    (hpools : ∀ venue : Key, r'.store.get? venue.text Store.Field.poolKeys.name =
      r.store.get? venue.text Store.Field.poolKeys.name) : Knows K r' := by
  refine ⟨hreader ▸ h.fixed, ?_⟩
  rw [← h.knowledge_eq]
  unfold knowledge
  rw [hreader]
  congr 1
  · funext t
    exact outcomeAt_lookupTable_congr h.fixed hreader (htables t)
  · funext venue
    exact outcomeAt_poolKeys_congr h.fixed hreader (hpools venue)

theorem Knows.of_asks (h : Knows K r) (hasks : onlyAsks.rel r r') : Knows K r' := by
  obtain ⟨hreader, hstore⟩ := Prod.mk.inj hasks
  exact h.congr hreader (fun t => by rw [hstore]) fun venue => by rw [hstore]

theorem allows_lookupTable_at (t : Key) :
    (onlyWritesAt t.text .lookupTable).Allows (lookupTable t).run := by
  rw [lookupTable_eq]
  exact allows_lookUp (fetches_table t)

theorem allows_poolKeys_at (venue : Key) :
    (onlyWritesAt venue.text .poolKeys).Allows (poolKeys venue).run := by
  rw [poolKeys_eq]
  exact allows_lookUp (fetches_pool venue)

/-- A record that is written adds nothing to what can be known when it is what
    would be looked up. -/
theorem Knows.of_writesAt {k : Key} {field : Store.Field} (h : Knows K r)
    (hwrites : (onlyWritesAt k.text field).rel r r')
    (htable : field = .lookupTable → outcomeAt (lookupTable k) k.text .lookupTable r' =
      outcomeAt (lookupTable k) k.text .lookupTable r)
    (hpool : field = .poolKeys → outcomeAt (poolKeys k) k.text .poolKeys r' =
      outcomeAt (poolKeys k) k.text .poolKeys r) : Knows K r' := by
  obtain ⟨hreader, hcells⟩ := hwrites
  refine ⟨hreader ▸ h.fixed, ?_⟩
  rw [← h.knowledge_eq]
  unfold knowledge
  rw [hreader]
  congr 1
  · funext t
    by_cases hwritten : t = k ∧ field = .lookupTable
    · obtain ⟨rfl, hfield⟩ := hwritten
      exact htable hfield
    · exact outcomeAt_lookupTable_congr h.fixed hreader
        (hcells _ _ fun hsame => hwritten ⟨Key.text_inj.1 hsame.1, hsame.2.symm⟩)
  · funext venue
    by_cases hwritten : venue = k ∧ field = .poolKeys
    · obtain ⟨rfl, hfield⟩ := hwritten
      exact hpool hfield
    · exact outcomeAt_poolKeys_congr h.fixed hreader
        (hcells _ _ fun hsame => hwritten ⟨Key.text_inj.1 hsame.1, hsame.2.symm⟩)

/-- Looking a table up adds nothing to what can be known. -/
theorem Knows.lookupTable (h : Knows K r) (t : Key) : Knows K (runOn (lookupTable t) r).2 := by
  refine h.of_writesAt (allows_lookupTable_at t r) (fun _ => ?_) nofun
  rw [lookupTable_eq]
  exact outcomeAt_lookUp_again (fetches_table t) h.fixed LookupTable.plain_toJson
    LookupTable.ofJson?_toJson

/-- Looking a pool up adds nothing to what can be known. -/
theorem Knows.poolKeys (h : Knows K r) (venue : Key) : Knows K (runOn (poolKeys venue) r).2 := by
  refine h.of_writesAt (allows_poolKeys_at venue r) nofun fun _ => ?_
  rw [poolKeys_eq]
  exact outcomeAt_lookUp_again (fetches_pool venue) h.fixed PoolKeys.plain_toJson
    PoolKeys.ofJson?_toJson

end Knows

/-! ## Two looks at the chain -/

/-- In each of two runs a text of a field stays, or becomes what is known of
    its key; and it does the same in both. -/
def SameTexts (known : Key → Option String) (field : Store.Field) (before after : Store × Store) :
    Prop :=
  ∀ name,
    (after.1.get? name field.name = before.1.get? name field.name ∧
      after.2.get? name field.name = before.2.get? name field.name) ∨
    ∃ k : Key, name = k.text ∧ after.1.get? name field.name = known k ∧
      after.2.get? name field.name = known k

section SameTexts

variable {known : Key → Option String} {field : Store.Field} {p q p' : Store × Store}

theorem sameTexts_of_eq
    (h : ∀ name, q.1.get? name field.name = p.1.get? name field.name)
    (h' : ∀ name, q.2.get? name field.name = p.2.get? name field.name) :
    SameTexts known field p q :=
  fun name => .inl ⟨h name, h' name⟩

theorem SameTexts.trans (h : SameTexts known field p q) (h' : SameTexts known field q p') :
    SameTexts known field p p' := by
  intro name
  obtain ⟨hleft, hright⟩ | hknown := h' name
  · -- nothing new in the second step, so what the first one did stands
    rw [hleft, hright]
    exact h name
  · exact .inr hknown

/-- The record that each of two operations writes is what is known of its key. -/
theorem sameTexts_of_writesAt {k : Key} {written : Store.Field} {r r' t t' : Registry}
    (h : (onlyWritesAt k.text written).rel r t) (h' : (onlyWritesAt k.text written).rel r' t')
    (hknown : field = written → t.store.get? k.text field.name = known k ∧
      t'.store.get? k.text field.name = known k) :
    SameTexts known field (r.store, r'.store) (t.store, t'.store) := by
  intro name
  by_cases hwritten : name = k.text ∧ field = written
  · obtain ⟨rfl, hfield⟩ := hwritten
    exact .inr ⟨k, rfl, hknown hfield⟩
  · exact .inl ⟨h.2 name field hwritten, h'.2 name field hwritten⟩

end SameTexts

/-- What looks at the chain do to the stores of two registries. -/
structure Looks (K : Knowledge) (before after : Store × Store) : Prop where
  tables : SameTexts (fun t => (K.table t).2) .lookupTable before after
  pools : SameTexts (fun venue => (K.pool venue).2) .poolKeys before after
  others : ∀ name field, field ≠ Store.Field.lookupTable → field ≠ Store.Field.poolKeys →
    after.1.get? name field.name = before.1.get? name field.name ∧
      after.2.get? name field.name = before.2.get? name field.name

/-- Two registries that know the same. -/
def looking (K : Knowledge) : Tandem Registry where
  alike r r' := Knows K r ∧ Knows K r'
  steps :=
    { rel p q := Looks K (p.1.store, p.2.store) (q.1.store, q.2.store)
      refl _ :=
        { tables := sameTexts_of_eq (fun _ => rfl) fun _ => rfl
          pools := sameTexts_of_eq (fun _ => rfl) fun _ => rfl
          others := fun _ _ _ _ => ⟨rfl, rfl⟩ }
      trans h h' :=
        { tables := h.tables.trans h'.tables
          pools := h.pools.trans h'.pools
          others := fun name field htable hpool =>
            ⟨(h'.others name field htable hpool).1.trans (h.others name field htable hpool).1,
              (h'.others name field htable hpool).2.trans (h.others name field htable hpool).2⟩ } }

section Looking

variable {K : Knowledge} {r r' : Registry}

theorem permits_lookupTable (t : Key) :
    (looking K).Permits Eq (lookupTable t) (lookupTable t) := by
  rintro r r' ⟨h, h'⟩
  have hwrites := allows_lookupTable_at t r
  have hwrites' := allows_lookupTable_at t r'
  refine ⟨agree_eq_iff.2 ((h.table_answer t).trans (h'.table_answer t).symm),
    ⟨h.lookupTable t, h'.lookupTable t⟩, ?_⟩
  exact
    { tables := sameTexts_of_writesAt hwrites hwrites' fun _ => ⟨h.table_text t, h'.table_text t⟩
      pools := sameTexts_of_writesAt hwrites hwrites' nofun
      others := fun name field htable _ =>
        ⟨hwrites.2 name field fun hsame => htable hsame.2,
          hwrites'.2 name field fun hsame => htable hsame.2⟩ }

theorem permits_poolKeys (venue : Key) :
    (looking K).Permits Eq (poolKeys venue) (poolKeys venue) := by
  rintro r r' ⟨h, h'⟩
  have hwrites := allows_poolKeys_at venue r
  have hwrites' := allows_poolKeys_at venue r'
  refine ⟨agree_eq_iff.2 ((h.pool_answer venue).trans (h'.pool_answer venue).symm),
    ⟨h.poolKeys venue, h'.poolKeys venue⟩, ?_⟩
  exact
    { tables := sameTexts_of_writesAt hwrites hwrites' nofun
      pools := sameTexts_of_writesAt hwrites hwrites' fun _ =>
        ⟨h.pool_text venue, h'.pool_text venue⟩
      others := fun name field _ hpool =>
        ⟨hwrites.2 name field fun hsame => hpool hsame.2,
          hwrites'.2 name field fun hsame => hpool hsame.2⟩ }

theorem permits_resolveIndex (static : List Key) (lookups : List TableLookup) (index : Nat) :
    (looking K).Permits Eq (resolveIndex static lookups index)
      (resolveIndex static lookups index) := by
  unfold resolveIndex
  cases static[index]? with
  | some key => exact Tandem.permits_pure rfl
  | none =>
    dsimp only
    cases (flattenLookups lookups)[index - static.length]? with
    | none => exact Tandem.permits_throw _
    | some entry =>
      refine Tandem.permits_bind (permits_lookupTable entry.table) ?_
      rintro content _ rfl
      cases content.addresses[entry.index.toNat]? with
      | some key => exact Tandem.permits_pure rfl
      | none => exact Tandem.permits_throw _

theorem permits_resolve (e : Envelope) (ix : CompiledInstruction) (position : Nat) :
    (looking K).Permits Eq (resolve e ix position) (resolve e ix position) := by
  rw [resolve_eq]
  cases ix.accounts[position]? with
  | none => exact Tandem.permits_throw _
  | some index => exact permits_resolveIndex e.accountKeys e.tableLookups index.toNat

/-- Questions alone leave what is kept as it is. -/
theorem Fetches.permits {ε α : Type} {op : RegistryM ε α} (h : Fetches op) :
    (looking K).Permits Eq op op := by
  rintro r r' ⟨hknows, hknows'⟩
  obtain ⟨-, hstore⟩ := Prod.mk.inj (h.asks r)
  obtain ⟨-, hstore'⟩ := Prod.mk.inj (h.asks r')
  have hreader : r'.reader = r.reader := hknows'.reader.trans hknows.reader.symm
  refine ⟨agree_eq_iff.2 (h.answer hknows.fixed hreader).symm,
    ⟨hknows.of_asks (h.asks r), hknows'.of_asks (h.asks r')⟩, ?_⟩
  have hstay := (looking K).steps.refl (r, r')
  show Looks K (r.store, r'.store) ((runOn op r).2.store, (runOn op r').2.store)
  rw [show (runOn op r).2.store = r.store from hstore,
    show (runOn op r').2.store = r'.store from hstore']
  exact hstay

/-- Where the same is known, an address is resolved to the same key. -/
theorem Knows.resolve_eq (h : Knows K r) (h' : Knows K r') (e : Envelope)
    (ix : CompiledInstruction) (position : Nat) :
    (runOn (resolve e ix position) r).1 = (runOn (resolve e ix position) r').1 :=
  agree_eq_iff.1 (permits_resolve (K := K) e ix position r r' ⟨h, h'⟩).answers

end Looking

end PoolWatch.Registry
