import PoolWatch.Proofs.Registry.Knowledge

/-! # What is looked up once

    Tables and pools are looked up in any order, each any number of times,
    and the node may answer differently every time it is asked, or not at
    all.  A look that is refused leaves the store as it was, at whatever stage
    it failed; one that is answered for the first time adds its record and
    nothing else; and from then on the record is the answer, and the node is
    not asked again.

    `Look.ends` says what one look can do, at any store; `inquiries_cached`
    says what follows for whole runs. -/

namespace PoolWatch

namespace Registry

open Account (LookupTable PoolState MarketState)

/-! ## Looking up -/

section LookingUp

variable {ε α : Type} {read : Json → Option α} {write : α → Json} {wrap : StoreError → ε}
  {key : String} {field : Store.Field} {fetch : RegistryM ε α}

/-- The ways in which a look-up can end: with what is kept, refused, or with
    something new that is kept from then on. -/
inductive LookUpEnds (read : Json → Option α) (key : String) (field : Store.Field)
    (r : Registry) : Except ε α → Registry → Prop where
  | kept {a : α} : r.store.record? read key field = .ok (some a) →
      LookUpEnds read key field r (.ok a) r
  | refused {e : ε} {r' : Registry} : r'.store = r.store →
      LookUpEnds read key field r (.error e) r'
  | fetched {a : α} {record : Json} {r' : Registry} : r.store.get? key field.name = none →
      r'.store = r.store.putRecord key field record →
      r'.store.record? read key field = .ok (some a) →
      LookUpEnds read key field r (.ok a) r'

theorem lookUp_ends (hfetch : Fetches fetch) (hplain : ∀ a, (write a).Plain)
    (hread : ∀ a, read (write a) = some a) (r : Registry) :
    LookUpEnds read key field r (runOn (lookUp read write wrap key field fetch) r).1
      (runOn (lookUp read write wrap key field fetch) r).2 := by
  cases hrecord : r.store.record? read key field with
  | error e =>
    rw [runOn_lookUp_unread hrecord]
    exact .refused rfl
  | ok found =>
    cases found with
    | some a =>
      rw [runOn_lookUp_kept hrecord]
      exact .kept hrecord
    | none =>
      -- nothing is written until all that is needed was told
      rcases hrun : runOn fetch r with ⟨e | a, r'⟩
      · obtain ⟨-, hstore⟩ := Prod.mk.inj (hfetch.asks.rel_of_runOn hrun)
        rw [runOn_lookUp_refused hrecord hrun]
        exact .refused hstore
      · obtain ⟨-, hstore⟩ := Prod.mk.inj (hfetch.asks.rel_of_runOn hrun)
        have hwritten : (r'.withRecord key field (write a)).store =
            r.store.putRecord key field (write a) := by
          rw [store_withRecord, hstore]
        rw [runOn_lookUp_fetched hrecord hrun]
        refine .fetched (Store.record?_eq_none_iff.1 hrecord) hwritten ?_
        rw [hwritten]
        exact r.store.record?_putRecord_self key field (hplain a) (hread a)

/-- Without a record the answer is what is fetched. -/
theorem lookUp_fst_of_missed {r : Registry} (h : r.store.record? read key field = .ok none) :
    (runOn (lookUp read write wrap key field fetch) r).1 = (runOn fetch r).1 := by
  rcases hrun : runOn fetch r with ⟨e | a, r'⟩
  · rw [runOn_lookUp_refused h hrun]
  · rw [runOn_lookUp_fetched h hrun]

end LookingUp

/-! ## Looks -/

/-- A look for a lookup table, or for the keys of a venue. -/
inductive Look where
  | table (key : Key)
  | pool (venue : Key)
  deriving DecidableEq

namespace Look

/-- What a look is answered. -/
inductive Answer where
  | table (answer : Except ResolveError LookupTable)
  | pool (answer : Except PoolError PoolKeys)

/-- Whether a look was not refused. -/
def Answer.isOk : Answer → Bool
  | table answer => answer.toBool
  | pool answer => answer.toBool

/-- The key under which the record of a look is kept. -/
def key : Look → Key
  | table key => key
  | pool venue => venue

/-- The field in which the record of a look is kept. -/
def field : Look → Store.Field
  | table _ => .lookupTable
  | pool _ => .poolKeys

/-- Takes a look: its answer, and the registry after it. -/
def take (r : Registry) : Look → Answer × Registry
  | table key => (.table (runOn (lookupTable key) r).1, (runOn (lookupTable key) r).2)
  | pool venue => (.pool (runOn (poolKeys venue) r).1, (runOn (poolKeys venue) r).2)

@[simp] theorem take_table (r : Registry) (key : Key) :
    (table key).take r =
      (.table (runOn (lookupTable key) r).1, (runOn (lookupTable key) r).2) := rfl

@[simp] theorem take_pool (r : Registry) (venue : Key) :
    (pool venue).take r = (.pool (runOn (poolKeys venue) r).1, (runOn (poolKeys venue) r).2) := rfl

/-- The text that a store holds for a look. -/
def textIn (s : Store) (look : Look) : Option String :=
  s.get? look.key.text look.field.name

/-- A store keeps what a look was answered. -/
inductive KeptIn (s : Store) : Look → Answer → Prop where
  | table {key : Key} {content : LookupTable} :
      s.record? LookupTable.ofJson? key.text .lookupTable = .ok (some content) →
      KeptIn s (.table key) (.table (.ok content))
  | pool {venue : Key} {keys : PoolKeys} :
      s.record? PoolKeys.ofJson? venue.text .poolKeys = .ok (some keys) →
      KeptIn s (.pool venue) (.pool (.ok keys))

/-- What a look can do. -/
inductive Ends (look : Look) (r : Registry) : Answer → Registry → Prop where
  | repeated {answer : Answer} : answer.isOk = true → look.KeptIn r.store answer →
      Ends look r answer r
  | refused {answer : Answer} {r' : Registry} : answer.isOk = false → r'.store = r.store →
      Ends look r answer r'
  | added {answer : Answer} {record : Json} {r' : Registry} : answer.isOk = true →
      look.textIn r.store = none →
      r'.store = r.store.putRecord look.key.text look.field record →
      look.KeptIn r'.store answer → Ends look r answer r'

theorem ends_table {key : Key} {r r' : Registry} {answer : Except ResolveError LookupTable}
    (h : LookUpEnds LookupTable.ofJson? key.text .lookupTable r answer r') :
    (table key).Ends r (.table answer) r' := by
  cases h with
  | kept hkept => exact .repeated rfl (.table hkept)
  | refused hstore => exact .refused rfl hstore
  | fetched hnone hstore hkept => exact .added rfl hnone hstore (.table hkept)

theorem ends_pool {venue : Key} {r r' : Registry} {answer : Except PoolError PoolKeys}
    (h : LookUpEnds PoolKeys.ofJson? venue.text .poolKeys r answer r') :
    (pool venue).Ends r (.pool answer) r' := by
  cases h with
  | kept hkept => exact .repeated rfl (.pool hkept)
  | refused hstore => exact .refused rfl hstore
  | fetched hnone hstore hkept => exact .added rfl hnone hstore (.pool hkept)

theorem ends (look : Look) (r : Registry) : look.Ends r (look.take r).1 (look.take r).2 := by
  cases look with
  | table key =>
    rw [take_table, lookupTable_eq]
    apply ends_table
    exact lookUp_ends (fetches_table key) LookupTable.plain_toJson LookupTable.ofJson?_toJson r
  | pool venue =>
    rw [take_pool, poolKeys_eq]
    apply ends_pool
    exact lookUp_ends (fetches_pool venue) PoolKeys.plain_toJson PoolKeys.ofJson?_toJson r

/-! ## What one look leaves -/

/-- Different looks have their records at different places. -/
theorem place_inj {look other : Look}
    (h : look.key.text = other.key.text ∧ look.field = other.field) : look = other := by
  obtain ⟨htext, hfield⟩ := h
  have hkey : look.key = other.key := Key.text_inj.1 htext
  cases look <;> cases other
  · exact congrArg table hkey
  · cases hfield
  · cases hfield
  · exact congrArg pool hkey

/-- What is kept for a look depends on its text only. -/
theorem KeptIn.congr {look : Look} {s s' : Store} {answer : Answer} (h : look.KeptIn s answer)
    (htext : look.textIn s' = look.textIn s) : look.KeptIn s' answer := by
  cases h with
  | table hkept => exact .table ((Store.record?_congr htext).trans hkept)
  | pool hkept => exact .pool ((Store.record?_congr htext).trans hkept)

/-- What is kept is a text. -/
theorem KeptIn.textIn_ne {look : Look} {s : Store} {answer : Answer}
    (h : look.KeptIn s answer) : look.textIn s ≠ none := by
  intro hnone
  cases h with
  | table hkept => exact Store.get?_ne_none hkept hnone
  | pool hkept => exact Store.get?_ne_none hkept hnone

/-- A look that is kept is answered so, and nobody is asked. -/
theorem take_kept {look : Look} {r : Registry} {answer : Answer}
    (h : look.KeptIn r.store answer) : look.take r = (answer, r) := by
  cases h with
  | table hkept => rw [take_table, runOn_lookupTable_kept hkept]
  | pool hkept => rw [take_pool, runOn_poolKeys_kept hkept]

namespace Ends

variable {look : Look} {r r' : Registry} {answer : Answer} (h : look.Ends r answer r')
include h

/-- Once answered, a look is kept. -/
theorem keptIn (hok : answer.isOk = true) : look.KeptIn r'.store answer := by
  cases h with
  | repeated _ hkept => exact hkept
  | refused hno _ =>
    rw [hno] at hok
    cases hok
  | added _ _ _ hkept => exact hkept

/-- A look that is refused leaves the store as it was. -/
theorem store_of_refused (hno : answer.isOk = false) : r'.store = r.store := by
  cases h with
  | repeated _ _ => rfl
  | refused _ hstore => exact hstore
  | added hok _ _ _ =>
    rw [hok] at hno
    cases hno

/-- Only a look that nothing was kept for, and that is answered, writes. -/
theorem miss_of_store_ne (hne : r'.store ≠ r.store) :
    look.textIn r.store = none ∧ answer.isOk = true := by
  cases h with
  | repeated _ _ => exact absurd rfl hne
  | refused _ hstore => exact absurd hstore hne
  | added hok hnone _ _ => exact ⟨hnone, hok⟩

/-- No text changes but the one of the look. -/
theorem get?_eq {key name : String} (hother : ¬ (key = look.key.text ∧ name = look.field.name)) :
    r'.store.get? key name = r.store.get? key name := by
  cases h with
  | repeated _ _ => rfl
  | refused _ hstore => rw [hstore]
  | added _ _ hstore _ => rw [hstore, Store.putRecord, Store.get?_set, if_neg hother]

/-- What is kept for any look is kept after every look. -/
theorem keeps {other : Look} {known : Answer} (hknown : other.KeptIn r.store known) :
    other.KeptIn r'.store known := by
  by_cases hsame : other = look
  · subst hsame
    cases h with
    | repeated _ _ => exact hknown
    | refused _ hstore => rwa [hstore]
    | added _ hnone _ _ =>
      -- where something is kept nothing is added
      exact absurd hnone hknown.textIn_ne
  · refine hknown.congr (h.get?_eq ?_)
    rintro ⟨htext, hname⟩
    exact hsame (place_inj ⟨htext, Store.Field.name_inj.1 hname⟩)

end Ends

end Look

/-! ## What the node tells -/

section Told

variable {α : Type} (r : Registry) (address : Key)

/-- The record in an account, as the node tells it next. -/
def toldRecord (codec : Account.Codec α) : Except PoolError α :=
  match r.toldData address with
  | .error e => .error e
  | .ok data => (Account.decode codec data).mapError .decode

/-- The keys of a venue, as they are put together from what the node tells
    next of its pool and then of its market. -/
def toldPool (venue : Key) : Except PoolError PoolKeys :=
  match r.toldRecord venue PoolState.codec with
  | .error e => .error e
  | .ok pool =>
    match (r.withAsked (.account venue)).toldRecord pool.marketId MarketState.codec with
    | .error e => .error e
    | .ok market => .ok (.assemble venue pool market)

/-- The content of a lookup table, as the node tells it next. -/
def toldTable : Except ResolveError LookupTable :=
  match r.reader.account r.asked address with
  | .error text => .error (.remote text)
  | .ok none => .error (.tableNotFound address)
  | .ok (some account) => (LookupTable.decode account.data).mapError .decode

/-- Asks the node for a record. -/
def fetchRecord (codec : Account.Codec α) (address : Key) : RegistryM PoolError α := do
  orThrow .decode (Account.decode codec (← accountData address))

theorem runOn_fetchRecord (codec : Account.Codec α) :
    runOn (fetchRecord codec address) r =
      (r.toldRecord address codec, r.withAsked (.account address)) := by
  have hdata := runOn_accountData_eq r address
  unfold fetchRecord toldRecord
  cases htold : r.toldData address with
  | error e =>
    rw [htold] at hdata
    rw [runOn_bind_error hdata]
  | ok data =>
    rw [htold] at hdata
    rw [runOn_bind_ok hdata]
    dsimp only
    cases Account.decode codec data <;> rfl

theorem fetchPool_eq (venue : Key) :
    fetchPool venue = (do
      let pool ← fetchRecord PoolState.codec venue
      let market ← fetchRecord MarketState.codec pool.marketId
      pure (.assemble venue pool market)) := by
  unfold fetchPool fetchRecord
  simp only [bind_assoc]

/-- The keys that are fetched are those that the node tells of. -/
theorem runOn_fetchPool (venue : Key) : (runOn (fetchPool venue) r).1 = r.toldPool venue := by
  have hpool := runOn_fetchRecord r venue PoolState.codec
  rw [fetchPool_eq]
  unfold toldPool
  cases htold : r.toldRecord venue PoolState.codec with
  | error e =>
    rw [htold] at hpool
    rw [runOn_bind_error hpool]
  | ok pool =>
    have hmarket := runOn_fetchRecord (r.withAsked (.account venue)) pool.marketId MarketState.codec
    rw [htold] at hpool
    rw [runOn_bind_ok hpool]
    dsimp only
    cases htold' : (r.withAsked (.account venue)).toldRecord pool.marketId MarketState.codec with
    | error e =>
      rw [htold'] at hmarket
      rw [runOn_bind_error hmarket]
    | ok market =>
      rw [htold'] at hmarket
      rw [runOn_bind_ok hmarket]
      rfl

end Told

/-- The node tells of a record when it is asked next. -/
def TellsNext {α : Type} (r : Registry) (codec : Account.Codec α) (address : Key) (a : α) :
    Prop :=
  ∃ account, r.reader.account r.asked address = .ok (some account) ∧
    Account.decode codec account.data = .ok a

section TellsNext

variable {α : Type} {r : Registry} {codec : Account.Codec α} {address : Key} {a : α}

theorem toldRecord_eq_ok_iff :
    r.toldRecord address codec = .ok a ↔ r.TellsNext codec address a := by
  unfold toldRecord toldData TellsNext
  cases r.reader.account r.asked address with
  | error text => exact ⟨nofun, nofun⟩
  | ok found =>
    cases found with
    | none => exact ⟨nofun, nofun⟩
    | some account =>
      dsimp only
      constructor
      · intro h
        cases hdecode : Account.decode codec account.data with
        | error e =>
          rw [hdecode] at h
          cases h
        | ok b =>
          rw [hdecode] at h
          obtain rfl : b = a := Except.ok.inj h
          exact ⟨account, rfl, hdecode⟩
      · rintro ⟨account', hsame, hdecode⟩
        obtain rfl : account = account' := Option.some.inj (Except.ok.inj hsame)
        rw [hdecode]
        rfl

theorem toldRecord_of_missing (h : r.reader.account r.asked address = .ok none) :
    r.toldRecord address codec = .error (.accountNotFound address) := by
  unfold toldRecord toldData
  rw [h]

theorem toldRecord_of_short {account : AccountInfo}
    (h : r.reader.account r.asked address = .ok (some account))
    (hshort : account.data.length < codec.width) :
    r.toldRecord address codec =
      .error (.decode (.accountTooShort codec.width account.data.length)) := by
  unfold toldRecord toldData Account.decode
  rw [h]
  dsimp only
  rw [if_pos hshort]
  rfl

/-- A pool without its market is refused as the market is. -/
theorem toldPool_of_market_error {venue : Key} {pool : PoolState} {e : PoolError}
    (hpool : r.TellsNext PoolState.codec venue pool)
    (hmarket : (r.withAsked (.account venue)).toldRecord pool.marketId MarketState.codec =
      .error e) : r.toldPool venue = .error e := by
  unfold toldPool
  rw [toldRecord_eq_ok_iff.2 hpool]
  dsimp only
  rw [hmarket]

/-- Keys are put together from a pool and its market. -/
theorem toldPool_eq_ok_iff {venue : Key} {keys : PoolKeys} :
    r.toldPool venue = .ok keys ↔ ∃ pool market,
      r.TellsNext PoolState.codec venue pool ∧
      (r.withAsked (.account venue)).TellsNext MarketState.codec pool.marketId market ∧
      keys = .assemble venue pool market := by
  constructor
  · intro h
    unfold toldPool at h
    cases hpool : r.toldRecord venue PoolState.codec with
    | error e =>
      rw [hpool] at h
      cases h
    | ok pool =>
      rw [hpool] at h
      dsimp only at h
      cases hmarket : (r.withAsked (.account venue)).toldRecord pool.marketId MarketState.codec with
      | error e =>
        rw [hmarket] at h
        cases h
      | ok market =>
        rw [hmarket] at h
        have hkeys : PoolKeys.assemble venue pool market = keys := Except.ok.inj h
        exact ⟨pool, market, toldRecord_eq_ok_iff.1 hpool, toldRecord_eq_ok_iff.1 hmarket,
          hkeys.symm⟩
  · rintro ⟨pool, market, hpool, hmarket, rfl⟩
    unfold toldPool
    rw [toldRecord_eq_ok_iff.2 hpool]
    dsimp only
    rw [toldRecord_eq_ok_iff.2 hmarket]

end TellsNext

namespace Look

variable {r : Registry}

/-- A table that is not kept is answered as the node tells of it. -/
theorem take_table_missed {key : Key} (h : (table key).textIn r.store = none) :
    ((table key).take r).1 = .table (r.toldTable key) := by
  have hnone : r.tableRecord key = .ok none := Store.record?_eq_none_iff.2 h
  rw [take_table, runOn_lookupTable_told hnone]
  unfold toldTable
  dsimp only
  cases r.reader.account r.asked key with
  | error text => rfl
  | ok found =>
    cases found with
    | none => rfl
    | some account =>
      dsimp only
      cases LookupTable.decode account.data <;> rfl

/-- The keys of a venue that are not kept are answered as the node tells of them. -/
theorem take_pool_missed {venue : Key} (h : (pool venue).textIn r.store = none) :
    ((pool venue).take r).1 = .pool (r.toldPool venue) := by
  have hnone : r.store.record? PoolKeys.ofJson? venue.text .poolKeys = .ok none :=
    Store.record?_eq_none_iff.2 h
  rw [take_pool, poolKeys_eq, lookUp_fst_of_missed hnone, runOn_fetchPool]

end Look

/-! ## Inquiries -/

/-- A look at some moment. -/
structure Inquiry where
  look : Look
  before : Registry

namespace Inquiry

/-- What was answered. -/
def answer (q : Inquiry) : Look.Answer :=
  (q.look.take q.before).1

/-- The registry when it was answered. -/
def after (q : Inquiry) : Registry :=
  (q.look.take q.before).2

/-- Nothing was kept yet of what is looked for. -/
def IsMiss (q : Inquiry) : Prop :=
  q.look.textIn q.before.store = none

theorem ends (q : Inquiry) : q.look.Ends q.before q.answer q.after :=
  q.look.ends q.before

/-- What an inquiry leaves in the store is all of an answer or nothing. -/
structure IsAtomic (q : Inquiry) : Prop where
  /-- Nothing is written unless nothing was kept and there is an answer now. -/
  writes : q.after.store ≠ q.before.store → q.IsMiss ∧ q.answer.isOk = true
  /-- No text changes but the one for which the look was. -/
  others : ∀ key name, ¬ (key = q.look.key.text ∧ name = q.look.field.name) →
    q.after.store.get? key name = q.before.store.get? key name
  /-- A refusal leaves the whole store as it was. -/
  refused : q.answer.isOk = false → q.after.store = q.before.store
  /-- An answer is kept. -/
  kept : q.answer.isOk = true → q.look.KeptIn q.after.store q.answer

theorem isAtomic (q : Inquiry) : q.IsAtomic where
  writes := q.ends.miss_of_store_ne
  others _ _ := q.ends.get?_eq
  refused := q.ends.store_of_refused
  kept := q.ends.keptIn

/-- An answer is what the node tells during the inquiry. -/
structure IsTold (q : Inquiry) : Prop where
  table : ∀ key, q.look = .table key → q.answer = .table (q.before.toldTable key)
  pool : ∀ venue, q.look = .pool venue → q.answer = .pool (q.before.toldPool venue)
  /-- Keys are put together from two accounts, as they are read one after the
      other: the venue's, and the one that the first names as its market. -/
  assembled : ∀ venue keys, q.look = .pool venue → q.answer = .pool (.ok keys) →
    ∃ pool market, q.before.TellsNext PoolState.codec venue pool ∧
      (q.before.withAsked (.account venue)).TellsNext MarketState.codec pool.marketId market ∧
      keys = .assemble venue pool market
  /-- A market that is missing refuses a pool that is there. -/
  market_missing : ∀ venue pool, q.look = .pool venue →
    q.before.TellsNext PoolState.codec venue pool →
    q.before.reader.account (.account venue :: q.before.asked) pool.marketId = .ok none →
    q.answer = .pool (.error (.accountNotFound pool.marketId))
  /-- So does a market whose account is too short. -/
  market_short : ∀ venue pool account, q.look = .pool venue →
    q.before.TellsNext PoolState.codec venue pool →
    q.before.reader.account (.account venue :: q.before.asked) pool.marketId =
      .ok (some account) →
    account.data.length < 388 →
    q.answer = .pool (.error (.decode (.accountTooShort 388 account.data.length)))

theorem IsMiss.isTold {q : Inquiry} (h : q.IsMiss) : q.IsTold := by
  have hpool : ∀ venue, q.look = .pool venue → q.answer = .pool (q.before.toldPool venue) := by
    intro venue hlook
    unfold IsMiss at h
    unfold answer
    rw [hlook] at h ⊢
    exact Look.take_pool_missed h
  refine ⟨?_, hpool, ?_, ?_, ?_⟩
  · intro key hlook
    unfold IsMiss at h
    unfold answer
    rw [hlook] at h ⊢
    exact Look.take_table_missed h
  · intro venue keys hlook hanswer
    rw [hpool venue hlook] at hanswer
    exact toldPool_eq_ok_iff.1 (Look.Answer.pool.inj hanswer)
  · intro venue pool hlook htells hmissing
    rw [hpool venue hlook, toldPool_of_market_error htells (toldRecord_of_missing hmissing)]
  · intro venue pool account hlook htells hthere hshort
    rw [hpool venue hlook, toldPool_of_market_error htells (toldRecord_of_short hthere hshort)]
    rfl

/-- Inquiries in turn: each finds the store as the one before left it.  The
    node may be another one each time. -/
def InTurn : Store → List Inquiry → Prop
  | _, [] => True
  | s, q :: rest => q.before.store = s ∧ InTurn q.after.store rest

section InTurn

variable {s : Store} {earlier later : List Inquiry} {q : Inquiry}

/-- What is kept stays kept. -/
theorem InTurn.keeps {look : Look} {known : Look.Answer}
    (h : InTurn s (earlier ++ q :: later)) (hkept : look.KeptIn s known) :
    look.KeptIn q.before.store known := by
  induction earlier generalizing s with
  | nil =>
    obtain ⟨rfl, -⟩ := h
    exact hkept
  | cons p earlier ih =>
    obtain ⟨rfl, hrest⟩ := h
    exact ih hrest (p.ends.keeps hkept)

/-- What was answered before is kept. -/
theorem InTurn.kept_of_answered {p : Inquiry} (h : InTurn s (earlier ++ q :: later))
    (hp : p ∈ earlier) (hok : p.answer.isOk = true) : p.look.KeptIn q.before.store p.answer := by
  induction earlier generalizing s with
  | nil => cases hp
  | cons first earlier ih =>
    obtain ⟨rfl, hrest⟩ := h
    rcases List.mem_cons.1 hp with rfl | hp
    · exact hrest.keeps (p.ends.keptIn hok)
    · exact ih hrest hp

/-- As long as a look is refused, nothing is kept for it. -/
theorem InTurn.isMiss (h : InTurn s (earlier ++ q :: later))
    (hnone : q.look.textIn s = none)
    (hrefused : ∀ p ∈ earlier, p.look = q.look → p.answer.isOk = false) : q.IsMiss := by
  induction earlier generalizing s with
  | nil =>
    obtain ⟨rfl, -⟩ := h
    exact hnone
  | cons p earlier ih =>
    obtain ⟨rfl, hrest⟩ := h
    refine ih hrest ?_ fun p' hp' => hrefused p' (List.mem_cons_of_mem p hp')
    by_cases hsame : p.look = q.look
    · -- it was refused, so the whole store is as it was
      rw [p.ends.store_of_refused (hrefused p List.mem_cons_self hsame)]
      exact hnone
    · rw [← hnone]
      apply p.ends.get?_eq
      rintro ⟨htext, hname⟩
      exact hsame (Look.place_inj ⟨htext, Store.Field.name_inj.1 hname⟩).symm

end InTurn

end Inquiry

/-- Looks for tables and for pools, in any order, on a store that was empty at
    first.  Each leaves in the store all of its answer or nothing, and where
    nothing was kept it is answered as the node tells it then.  Once a look
    was answered it is always answered the same, and nobody is asked and
    nothing is written for it; until then nothing is kept. -/
theorem inquiries_cached {inquiries earlier later : List Inquiry} {q : Inquiry}
    (h : Inquiry.InTurn .empty inquiries) (hq : inquiries = earlier ++ q :: later) :
    q.IsAtomic ∧
    (q.IsMiss → q.IsTold) ∧
    (∀ p ∈ earlier, p.look = q.look → p.answer.isOk = true →
      q.answer = p.answer ∧ q.after = q.before) ∧
    ((∀ p ∈ earlier, p.look = q.look → p.answer.isOk = false) → q.IsMiss) := by
  subst hq
  refine ⟨q.isAtomic, Inquiry.IsMiss.isTold, ?_, ?_⟩
  · intro p hp hlook hok
    have hkept : q.look.KeptIn q.before.store p.answer := hlook ▸ h.kept_of_answered hp hok
    have htake : q.look.take q.before = (p.answer, q.before) := Look.take_kept hkept
    unfold Inquiry.after
    constructor
    · rw [Inquiry.answer, htake]
    · rw [htake]
  · intro hrefused
    exact h.isMiss (Store.get?_empty _ _) hrefused

/-! A venue is looked for three times.  At first the node knows no market, then
    it does, and at last it is another node that knows nothing. -/

section Wavering

/-- A node that tells of a pool at first, and then answers this. -/
def poolThen (answer : Except String (Option AccountInfo)) : Reader where
  account asked _ :=
    match asked with
    | [] => .ok (some ⟨PoolState.codec.encode (PoolState.codec.decode []), .zero, 0⟩)
    | _ => answer
  balance _ _ := .ok 0
  blockhash _ := .ok .zero

/-- The node knows no market. -/
def unmarketed : Inquiry :=
  ⟨.pool .zero, ⟨.empty, poolThen (.ok none), []⟩⟩

/-- The node knows a market. -/
def marketed : Inquiry where
  look := .pool .zero
  before :=
    { store := .empty
      reader :=
        poolThen (.ok (some ⟨MarketState.codec.encode (MarketState.codec.decode []), .zero, 0⟩))
      asked := [] }

/-- The node knows nothing any more. -/
def forgotten : Inquiry :=
  ⟨.pool .zero, ⟨marketed.after.store, .empty, []⟩⟩

theorem tellsNext_poolThen (answer : Except String (Option AccountInfo)) :
    TellsNext ⟨.empty, poolThen answer, []⟩ PoolState.codec .zero (PoolState.codec.decode []) :=
  ⟨_, rfl, decode_encode _ _⟩

theorem answer_unmarketed : unmarketed.answer =
    .pool (.error (.accountNotFound (PoolState.codec.decode []).marketId)) := by
  have hmiss : unmarketed.IsMiss := rfl
  exact hmiss.isTold.market_missing .zero _ rfl (tellsNext_poolThen _) rfl

theorem answer_marketed : marketed.answer =
    .pool (.ok (.assemble .zero (PoolState.codec.decode []) (MarketState.codec.decode []))) := by
  have hmiss : marketed.IsMiss := rfl
  rw [hmiss.isTold.pool .zero rfl]
  refine congrArg Look.Answer.pool (toldPool_eq_ok_iff.2 ⟨_, _, tellsNext_poolThen _, ?_, rfl⟩)
  exact ⟨_, rfl, decode_encode _ _⟩

theorem inTurn_wavering : Inquiry.InTurn .empty [unmarketed, marketed, forgotten] := by
  have hrefused : unmarketed.answer.isOk = false := by
    rw [answer_unmarketed]
    rfl
  have hstore : marketed.before.store = unmarketed.after.store :=
    (unmarketed.isAtomic.refused hrefused).symm
  have hstore' : forgotten.before.store = marketed.after.store := by
    unfold forgotten
    dsimp only
  exact ⟨rfl, hstore, hstore', trivial⟩

theorem forgotten_cached :
    Inquiry.InTurn .empty [unmarketed, marketed, forgotten] ∧ marketed.IsMiss ∧
      marketed.answer.isOk = true ∧ forgotten.answer = marketed.answer ∧
      forgotten.after = forgotten.before := by
  have hmiss : marketed.IsMiss := rfl
  have hok : marketed.answer.isOk = true := by
    rw [answer_marketed]
    rfl
  have hlast : [unmarketed, marketed, forgotten] = [unmarketed, marketed] ++ [forgotten] := rfl
  have hearlier : marketed ∈ [unmarketed, marketed] := List.mem_cons_of_mem _ List.mem_cons_self
  obtain ⟨-, -, hagain, -⟩ := inquiries_cached inTurn_wavering hlast
  obtain ⟨hanswer, hafter⟩ := hagain marketed hearlier rfl hok
  exact ⟨inTurn_wavering, hmiss, hok, hanswer, hafter⟩

end Wavering

end Registry

end PoolWatch
