import PoolWatch.Proofs.Registry.Knowledge
import PoolWatch.Proofs.Tracking.Apart
import PoolWatch.Proofs.Watcher.Together

/-! # An envelope in two states

    What is made of an envelope depends on what is known of the chain, and on
    the status and the ledger of the venues that the envelope names.  So two
    watchers that know the same and agree on those venues handle it alike:
    they answer the same but for the number of a row, agree on those venues
    again, keep the same tables and pools, and append the same row but for
    its number and its time.  Of other venues nothing changes. -/

namespace PoolWatch

/-! ## Rows -/

/-- A row without its number and its time. -/
def Row.unstamped (r : Row) : Row where
  id := 0
  cells
    | .timestamp => .null
    | c => r.cells c

/-- Trades of different times have rows that are the same without it. -/
theorem Trade.unstamped_row (t : Trade) (seconds : Int64) (id id' : Nat) :
    (t.row id).unstamped = ({ t with timestamp := seconds }.row id').unstamped := by
  obtain ⟨venue, mint, action, limit, price, amount, signature, tip, tipAmount, status, signer,
    time⟩ := t
  by_cases hlimits : limit.toNat < 0x8000000000000000 ∧ price.toNat < 0x8000000000000000
  · simp only [Row.unstamped, Trade.row, Trade.cells?, if_pos hlimits, Option.getD_some]
    refine congrArg (Row.mk 0) (funext fun c => ?_)
    cases c <;> rfl
  · simp only [Row.unstamped, Trade.row, Trade.cells?, if_neg hlimits]

namespace Watcher

open Registry (Knowledge Knows Looks SameTexts looking)
open Tracking (told)

/-! ## Answers -/

/-- An answer without the number of the row. -/
def Processed.unnumbered : Processed → Processed
  | .duplicate => .duplicate
  | .done tradeId => .done (tradeId.map fun _ => 0)

theorem Processed.unnumbered_done {x y : Option Nat} (h : x.isSome = y.isSome) :
    (Processed.done x).unnumbered = (Processed.done y).unnumbered := by
  cases x <;> cases y <;> first | rfl | cases h

/-! ## States abreast -/

/-- Two watchers that know the same of the chain, and tell the same of some
    venues. -/
structure Alike (K : Knowledge) (venues : Key → Prop) (w w' : State) : Prop where
  knows : Knows K w.registry
  knows' : Knows K w'.registry
  told : ∀ venue, venues venue → told w.registry.store venue = told w'.registry.store venue

/-- What becomes of two watchers: both keep the same of tables and pools,
    leave other venues alone, and append the same rows. -/
structure Moves (K : Knowledge) (venues : Key → Prop) (before after : State × State) : Prop where
  tables : SameTexts (fun t => (K.table t).2) .lookupTable
    (before.1.registry.store, before.2.registry.store)
    (after.1.registry.store, after.2.registry.store)
  pools : SameTexts (fun venue => (K.pool venue).2) .poolKeys
    (before.1.registry.store, before.2.registry.store)
    (after.1.registry.store, after.2.registry.store)
  apart : ∀ venue, ¬ venues venue →
    told after.1.registry.store venue = told before.1.registry.store venue ∧
      told after.2.registry.store venue = told before.2.registry.store venue
  rows : ∃ new new', after.1.trades.rows = new ++ before.1.trades.rows ∧
    after.2.trades.rows = new' ++ before.2.trades.rows ∧
    new.map Row.unstamped = new'.map Row.unstamped

/-- Watchers that handle an envelope abreast. -/
def abreast (K : Knowledge) (venues : Key → Prop) : Tandem State where
  alike := Alike K venues
  steps :=
    { rel := Moves K venues
      refl _ :=
        { tables := Registry.sameTexts_of_eq (fun _ => rfl) fun _ => rfl
          pools := Registry.sameTexts_of_eq (fun _ => rfl) fun _ => rfl
          apart := fun _ _ => ⟨rfl, rfl⟩
          rows := ⟨[], [], rfl, rfl, rfl⟩ }
      trans h h' :=
        { tables := h.tables.trans h'.tables
          pools := h.pools.trans h'.pools
          apart := fun venue hvenue =>
            ⟨(h'.apart venue hvenue).1.trans (h.apart venue hvenue).1,
              (h'.apart venue hvenue).2.trans (h.apart venue hvenue).2⟩
          rows := by
            obtain ⟨new, new', hrows, hrows', hnew⟩ := h.rows
            obtain ⟨more, more', hmore, hmore', hmores⟩ := h'.rows
            refine ⟨more ++ new, more' ++ new', ?_, ?_, ?_⟩
            · rw [hmore, hrows, List.append_assoc]
            · rw [hmore', hrows', List.append_assoc]
            · rw [List.map_append, List.map_append, hmores, hnew] } }

section Parts

variable {K : Knowledge} {venues : Key → Prop} {ε α β : Type}

/-- Looks at the chain go together, for they show in no status and no ledger. -/
theorem permits_onRegistry {R : α → β → Prop} (wrap : ε → HandlingError) {op : RegistryM ε α}
    {op' : RegistryM ε β} (h : (looking K).Permits R op op') :
    (abreast K venues).Permits R (onRegistry wrap op) (onRegistry wrap op') := by
  intro w w' halike
  obtain ⟨hanswers, ⟨hknows, hknows'⟩, hlooks⟩ := h _ _ ⟨halike.knows, halike.knows'⟩
  have hstatus := fun venue : Key => hlooks.others venue.text .tracker nofun nofun
  have hledger := fun venue : Key => hlooks.others venue.text .ledger nofun nofun
  have hkept := fun venue => Tracking.told_eq_iff.2
    ⟨Tracking.statusOf_congr (hstatus venue).1, Tracking.ledgerOf_congr (hledger venue).1⟩
  have hkept' := fun venue => Tracking.told_eq_iff.2
    ⟨Tracking.statusOf_congr (hstatus venue).2, Tracking.ledgerOf_congr (hledger venue).2⟩
  rw [runOn_onRegistry, runOn_onRegistry]
  refine ⟨hanswers.mapError wrap, ⟨hknows, hknows', fun venue hvenue => ?_⟩,
    ⟨hlooks.tables, hlooks.pools, fun venue _ => ⟨hkept venue, hkept' venue⟩,
      [], [], rfl, rfl, rfl⟩⟩
  exact (hkept venue).trans ((halike.told venue hvenue).trans (hkept' venue).symm)

/-- Operations about a venue on which both agree go together, at whatever times. -/
theorem permits_onTrackers {op : Int64 → Tracking.TrackM α} {venue : Key}
    (h : Tracking.IsAbout venue op) (hvenue : venues venue) (now now' : Int64) :
    (abreast K venues).Permits Eq (onTrackers (op now)) (onTrackers (op now')) := by
  intro w w' halike
  obtain ⟨hanswer, htold⟩ := h.same now now' _ _ (halike.told venue hvenue)
  have hapart := h.apart now w.registry.store
  have hapart' := h.apart now' w'.registry.store
  -- tables and pools are kept in fields of their own
  have htables := fun name => h.keeps now w.registry.store name .lookupTable nofun nofun
  have htables' := fun name => h.keeps now' w'.registry.store name .lookupTable nofun nofun
  have hpools := fun name => h.keeps now w.registry.store name .poolKeys nofun nofun
  have hpools' := fun name => h.keeps now' w'.registry.store name .poolKeys nofun nofun
  have hknows : Knows K (w.withStore (runOn (op now) w.registry.store).2).registry :=
    halike.knows.congr rfl (fun t => htables t.text) fun v => hpools v.text
  have hknows' : Knows K (w'.withStore (runOn (op now') w'.registry.store).2).registry :=
    halike.knows'.congr rfl (fun t => htables' t.text) fun v => hpools' v.text
  rw [runOn_onTrackers, runOn_onTrackers]
  refine ⟨agree_eq_iff.2 (congrArg (Except.mapError HandlingError.tracker) hanswer),
    ⟨hknows, hknows', fun other hother => ?_⟩,
    ⟨Registry.sameTexts_of_eq htables htables', Registry.sameTexts_of_eq hpools hpools',
      fun other hother => ?_, [], [], rfl, rfl, rfl⟩⟩
  · by_cases hsame : other = venue
    · rw [hsame]
      exact htold
    · exact (hapart other hsame).trans
        ((halike.told other hother).trans (hapart' other hsame).symm)
  · have hne : other ≠ venue := fun hsame => hother (hsame ▸ hvenue)
    exact ⟨hapart other hne, hapart' other hne⟩

/-- The registry and the trades stay. -/
def quiet : Frame State :=
  Frame.ofView fun w => (w.registry, w.trades)

theorem Alike.congr {w w' v v' : State} (h : Alike K venues w w') (hv : v.registry = w.registry)
    (hv' : v'.registry = w'.registry) : Alike K venues v v' := by
  refine ⟨hv ▸ h.knows, hv' ▸ h.knows', ?_⟩
  rw [hv, hv']
  exact h.told

/-- What touches neither the registry nor the trades goes with itself. -/
theorem allows_quiet {op : StateM State PUnit} (h : quiet.Allows op) :
    (abreast K venues).Allows Eq op op := by
  intro w w' halike
  obtain ⟨hregistry, htrades⟩ := Prod.mk.inj (h w)
  obtain ⟨hregistry', htrades'⟩ := Prod.mk.inj (h w')
  have hstore : (op.run w).2.registry.store = w.registry.store := congrArg Registry.store hregistry
  have hstore' : (op.run w').2.registry.store = w'.registry.store :=
    congrArg Registry.store hregistry'
  refine ⟨rfl, halike.congr hregistry hregistry', ?_⟩
  show Moves K venues (w, w') ((op.run w).2, (op.run w').2)
  exact
    { tables := Registry.sameTexts_of_eq (fun _ => by rw [hstore]) fun _ => by rw [hstore']
      pools := Registry.sameTexts_of_eq (fun _ => by rw [hstore]) fun _ => by rw [hstore']
      apart := fun _ _ => by
        rw [hstore, hstore']
        exact ⟨rfl, rfl⟩
      rows := ⟨[], [], congrArg TradeHistory.rows htrades, congrArg TradeHistory.rows htrades',
        rfl⟩ }

/-- A record is made in both, under whatever number and of whatever time. -/
theorem permits_record (e : Envelope) (facts : Facts) (site : SwapSite) (seconds seconds' : Int64) :
    (abreast K venues).Permits (fun _ _ => True) (record (tradeOf e facts site seconds))
      (record (tradeOf e facts site seconds')) := by
  intro w w' halike
  rw [runOn_record (tradeOf_fits ..), runOn_record (tradeOf_fits ..)]
  have hrow := (tradeOf e facts site seconds).unstamped_row seconds' (w.trades.lastId + 1)
    (w'.trades.lastId + 1)
  refine ⟨.ok trivial, halike.congr rfl rfl, ?_⟩
  exact
    { tables := Registry.sameTexts_of_eq (fun _ => rfl) fun _ => rfl
      pools := Registry.sameTexts_of_eq (fun _ => rfl) fun _ => rfl
      apart := fun _ _ => ⟨rfl, rfl⟩
      rows := ⟨[_], [_], rfl, rfl, congrArg (fun r => [r]) hrow⟩ }

end Parts

/-! ## The venues of an envelope -/

/-- The venues that an envelope names, as they are resolved from a registry:
    those of its openings, of its withdrawals, and of its last swap. -/
inductive Names (r : Registry) (e : Envelope) : Key → Prop where
  | opening {ix : CompiledInstruction} {nonce : UInt8} {time quote base : UInt64} {venue : Key} :
      ix ∈ e.instructions → e.programOf? ix = some Address.venueProgram →
      Instruction.decodeVenue ix.data = .ok (.openPool nonce time quote base) →
      (runOn (Registry.resolve e ix openPoolVenue) r).1 = .ok venue → Names r e venue
  | withdrawal {ix : CompiledInstruction} {amount : UInt64} {venue : Key} :
      ix ∈ e.instructions → e.programOf? ix = some Address.venueProgram →
      Instruction.decodeVenue ix.data = .ok (.withdraw amount) →
      (runOn (Registry.resolve e ix withdrawVenue) r).1 = .ok venue → Names r e venue
  | swap {ix : CompiledInstruction} {venue : Key} : (gathered e).swap = some ix →
      (runOn (Registry.resolve e ix swapVenue) r).1 = .ok venue → Names r e venue

/-- Where the same is known, an envelope names the same venues. -/
theorem Names.of_knows {K : Knowledge} {r r' : Registry} {e : Envelope} {venue : Key}
    (h : Names r e venue) (hr : Knows K r) (hr' : Knows K r') : Names r' e venue := by
  cases h with
  | opening hix hprogram hdecode hresolve =>
    exact .opening hix hprogram hdecode ((hr'.resolve_eq hr e _ _).trans hresolve)
  | withdrawal hix hprogram hdecode hresolve =>
    exact .withdrawal hix hprogram hdecode ((hr'.resolve_eq hr e _ _).trans hresolve)
  | swap hswap hresolve => exact .swap hswap ((hr'.resolve_eq hr e _ _).trans hresolve)

/-- Wherever the same is known, an envelope names some venues at most. -/
def NamesWithin (K : Knowledge) (venues : Key → Prop) (e : Envelope) : Prop :=
  ∀ r venue, Knows K r → Names r e venue → venues venue

/-- Wherever the same is known, a position of an instruction is resolved to
    one of some venues. -/
def ResolvesWithin (K : Knowledge) (venues : Key → Prop) (e : Envelope) (ix : CompiledInstruction)
    (position : Nat) : Prop :=
  ∀ r venue, Knows K r → (runOn (Registry.resolve e ix position) r).1 = .ok venue → venues venue

/-! ## Handling abreast -/

section Handling

variable {K : Knowledge} {venues : Key → Prop} {s : Setup} {e : Envelope}
  {ix : CompiledInstruction}

/-- A position that names a venue is resolved to one on which both agree. -/
theorem permits_venue {position : Nat} (hnames : ResolvesWithin K venues e ix position) :
    ResolvesAmong (abreast K venues) venues e ix position := by
  refine permits_onRegistry _ ?_
  rintro r r' ⟨hknows, hknows'⟩
  obtain ⟨hanswers, halike, hsteps⟩ := Registry.permits_resolve e ix position r r' ⟨hknows, hknows'⟩
  refine ⟨?_, halike, hsteps⟩
  rw [← agree_eq_iff.1 hanswers]
  cases hanswer : (runOn (Registry.resolve e ix position) r).1 with
  | ok venue => exact .ok ⟨rfl, hnames r venue hknows hanswer⟩
  | error err => exact .error err

/-- Both find the venues that an envelope names. -/
theorem finds_abreast (hnames : NamesWithin K venues e) :
    FindsAmong (abreast K venues) venues e where
  opening hix hprogram hdecode := permits_venue fun r venue hr hresolve =>
    hnames r venue hr (.opening hix hprogram hdecode hresolve)
  withdrawal hix hprogram hdecode := permits_venue fun r venue hr hresolve =>
    hnames r venue hr (.withdrawal hix hprogram hdecode hresolve)
  swap hswap := permits_venue fun r venue hr hresolve =>
    hnames r venue hr (.swap hswap hresolve)

/-- A strategy that never trades leaves a note of the event, and no more. -/
theorem run_fire_idle (hidle : s.strategy = .idle) (trigger : Trigger) (w : State) :
    (fire s trigger).run w = ((), { w with fired := trigger :: w.fired }) := by
  unfold fire
  rw [hidle]
  rfl

theorem quiet_fire (hidle : s.strategy = .idle) (trigger : Trigger) :
    quiet.Allows (fire s trigger) := by
  intro w
  rw [run_fire_idle hidle]
  rfl

/-- As long as nothing is traded, all that is handled goes together; only the
    numbers of rows may differ. -/
theorem covers_abreast (hidle : s.strategy = .idle) :
    CoversBoth (abreast K venues) venues (fun _ _ => True) s where
  resolve e ix position := permits_onRegistry _ (Registry.permits_resolve e ix position)
  poolKeys venue := permits_onRegistry _ (Registry.permits_poolKeys venue)
  balance keys := permits_onRegistry _ (Registry.fetches_nativeBalance keys).permits
  status venue hvenue := permits_onTrackers (Tracking.isAbout_status venue) hvenue 0 0
  opening venue now now' hvenue :=
    permits_onTrackers (Tracking.isAbout_handleOpening venue) hvenue now now'
  withdraw venue reserve now now' hvenue :=
    permits_onTrackers (Tracking.isAbout_handleWithdraw s.policy venue reserve) hvenue now now'
  selfSwap venue amount succeeded now now' hvenue := permits_onTrackers
    (Tracking.isAbout_handleSelfSwap s.policy venue amount succeeded) hvenue now now'
  record := permits_record
  fire trigger := allows_quiet (quiet_fire hidle trigger)
  tell _ := allows_quiet fun _ => rfl
  wait _ := allows_quiet fun _ => rfl

/-! ## Envelopes abreast -/

/-- Answers that correspond in any way are answers in both or in neither. -/
theorem isSome_of_rel {number : Nat → Nat → Prop} {x y : Option Nat}
    (h : Option.Rel number x y) : x.isSome = y.isSome := by
  cases h <;> rfl

theorem quiet_noteArrival (s : Setup) (e : Envelope) :
    quiet.Allows (modify (noteArrival s e) : StateM State PUnit) := fun _ => rfl

/-- Two watchers that know the same, and agree on the venues that an envelope
    names, handle it alike. -/
theorem process_abreast (hidle : s.strategy = .idle)
    (hnames : NamesWithin K venues e) {w w' : State}
    (hnew : w.seen.remembers w.time e.signature = false)
    (hnew' : w'.seen.remembers w'.time e.signature = false) (halike : Alike K venues w w') :
    (abreast K venues).After (fun x y => x.unnumbered = y.unnumbered) w w'
      ((process s e).run w) ((process s e).run w') := by
  rw [run_process_new s e hnew, run_process_new s e hnew']
  have hfinds := finds_abreast hnames
  have harrived := allows_quiet (quiet_noteArrival s e) w w' halike
  obtain ⟨hscanned, hmoves⟩ :=
    (covers_abreast hidle).handleEach hfinds (fun _ => id) harrived.alike
  have hconcluded := (covers_abreast hidle).conclude hfinds _ _ hscanned
  refine ⟨?_, hconcluded.alike, (abreast K venues).steps.trans harrived.steps
    ((abreast K venues).steps.trans hmoves hconcluded.steps)⟩
  exact Processed.unnumbered_done (isSome_of_rel hconcluded.answers)

end Handling

end Watcher

end PoolWatch
