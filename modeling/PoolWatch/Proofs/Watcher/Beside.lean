import PoolWatch.Proofs.Registry.Additions
import PoolWatch.Proofs.Tracking.Undated
import PoolWatch.Proofs.Watcher.Abreast
import PoolWatch.Proofs.Watcher.Signing

/-! # A watcher that has looked more up, and at other times

    Two watchers stand beside each other when all that sets them apart are
    times, and tables and pools that the first one keeps and the second one
    would learn of when it needs them.  As long as the node tells the same
    whenever it is asked, neither makes a difference: whatever the two do
    next, they answer the same, send the same, show and tell the same, and
    stand beside each other again, whatever the strategy wants. -/

namespace PoolWatch

/-! ## Rows of different times -/

/-- A row without its time. -/
def Row.undated (r : Row) : Row :=
  { r.unstamped with id := r.id }

/-- Two histories whose rows have the same numbers, and differ in their times
    at most. -/
structure TradeHistory.SameButTimes (h h' : TradeHistory) : Prop where
  rows : h.rows.map Row.undated = h'.rows.map Row.undated
  lastId : h.lastId = h'.lastId

theorem Trade.undated_row (t : Trade) (seconds : Int64) (id : Nat) :
    (t.row id).undated = ({ t with timestamp := seconds }.row id).undated := by
  have hunstamped := t.unstamped_row seconds id id
  unfold Row.undated
  rw [hunstamped]
  rfl

theorem TradeHistory.SameButTimes.withTrade {h h' : TradeHistory} (hsame : h.SameButTimes h')
    (t : Trade) (seconds : Int64) :
    (h.withTrade t).SameButTimes (h'.withTrade { t with timestamp := seconds }) where
  rows := by
    unfold TradeHistory.withTrade
    rw [List.map_cons, List.map_cons, hsame.rows, hsame.lastId, t.undated_row seconds]
  lastId := congrArg (· + 1) hsame.lastId

namespace Watcher

open Registry (Knowledge Knows Looks SameTexts looking onlyAdds IsLookField)
open Tracking (SameTrackers undated)

/-! ## States beside each other -/

/-- Two watchers that differ in times at most, and in tables and pools that
    only the first one keeps. -/
structure Beside (w w' : State) : Prop where
  records : SameTrackers w.registry.store w'.registry.store
  looked : ∀ key name, IsLookField name → w'.registry.store.get? key name ≠ none →
    w.registry.store.get? key name = w'.registry.store.get? key name
  trades : w.trades.SameButTimes w'.trades
  router : w.router = w'.router
  seen : w.seen = w'.seen
  blockhash : w.blockhash = w'.blockhash
  fired : w.fired = w'.fired

theorem Beside.refl (w : State) : Beside w w :=
  ⟨.refl _, fun _ _ _ _ => rfl, ⟨rfl, rfl⟩, rfl, rfl, rfl, rfl⟩

/-- Two watchers beside each other that know the same of the chain. -/
structure BesideKnowing (K : Knowledge) (w w' : State) : Prop extends Beside w w' where
  knows : Knows K w.registry
  knows' : Knows K w'.registry
  hashReads : w.registry.hashReads = w'.registry.hashReads

theorem BesideKnowing.refl {K : Knowledge} {w : State} (h : Knows K w.registry) :
    BesideKnowing K w w :=
  { Beside.refl w with
    knows := h
    knows' := h
    hashReads := rfl }

/-- Both watchers tell the same. -/
def tellsSame : Frame (State × State) where
  rel p q := ∃ new, q.1.notices = new ++ p.1.notices ∧ q.2.notices = new ++ p.2.notices
  refl _ := ⟨[], rfl, rfl⟩
  trans := by
    rintro p q r ⟨new, hnew, hnew'⟩ ⟨more, hmore, hmore'⟩
    refine ⟨more ++ new, ?_, ?_⟩
    · rw [hmore, hnew, List.append_assoc]
    · rw [hmore', hnew', List.append_assoc]

/-- Watchers that stand beside each other. -/
def beside (K : Knowledge) : Tandem State where
  alike := BesideKnowing K
  steps := tellsSame

section Parts

variable {K : Knowledge} {ε α : Type} {w w' : State}

/-- Times and notices make no difference. -/
theorem BesideKnowing.later (h : BesideKnowing K w w') (time time' : Nat)
    (notices notices' : List Notice) :
    BesideKnowing K { w with time, notices }
      { w' with time := time', notices := notices' } :=
  { h with }

/-- Texts that are looked up in both stay as they are, or become the same. -/
theorem get?_eq_of_sameTexts {known : Key → Option String} {field : Store.Field}
    {p q : Store × Store} (h : SameTexts known field p q) (key : String)
    (hbefore : p.2.get? key field.name ≠ none →
      p.1.get? key field.name = p.2.get? key field.name)
    (hsome : q.2.get? key field.name ≠ none) :
    q.1.get? key field.name = q.2.get? key field.name := by
  obtain ⟨hleft, hright⟩ | ⟨k, -, hleft, hright⟩ := h key
  · rw [hleft, hright]
    exact hbefore (hright ▸ hsome)
  · exact hleft.trans hright.symm

/-- A look at the chain is answered the same in both. -/
theorem besides_onRegistry (wrap : ε → HandlingError) {op : RegistryM ε α}
    (h : (looking K).Permits Eq op op) (hadds : onlyAdds.Allows op.run) :
    (beside K).Permits Eq (onRegistry wrap op) (onRegistry wrap op) := by
  intro w w' halike
  obtain ⟨hanswers, ⟨hknows, hknows'⟩, hlooks⟩ := h _ _ ⟨halike.knows, halike.knows'⟩
  have hadded : Registry.Adds w.registry (runOn op w.registry).2 := hadds w.registry
  have hadded' : Registry.Adds w'.registry (runOn op w'.registry).2 := hadds w'.registry
  have hrecords : SameTrackers (runOn op w.registry).2.store (runOn op w'.registry).2.store := by
    refine halike.records.congr fun name field hfield => ?_
    have hother := Registry.not_isLookField hfield
    exact ⟨hadded.others name _ hother, hadded'.others name _ hother⟩
  have hlooked : ∀ key name, IsLookField name →
      (runOn op w'.registry).2.store.get? key name ≠ none →
      (runOn op w.registry).2.store.get? key name =
        (runOn op w'.registry).2.store.get? key name := by
    rintro key name (rfl | rfl) hsome
    · exact get?_eq_of_sameTexts hlooks.tables key (halike.looked key _ (.inl rfl)) hsome
    · exact get?_eq_of_sameTexts hlooks.pools key (halike.looked key _ (.inr rfl)) hsome
  have hreads : (runOn op w.registry).2.hashReads = (runOn op w'.registry).2.hashReads :=
    hadded.hashReads.trans (halike.hashReads.trans hadded'.hashReads.symm)
  rw [runOn_onRegistry, runOn_onRegistry]
  refine ⟨hanswers.mapError wrap, ?_, [], rfl, rfl⟩
  exact
    { halike with
      records := hrecords
      looked := hlooked
      knows := hknows
      knows' := hknows'
      hashReads := hreads }

/-- Operations on trackers that do not tell different times apart are answered
    the same in both. -/
theorem besides_onTrackers {op op' : Tracking.TrackM α} (h : undated.Permits Eq op op') :
    (beside K).Permits Eq (onTrackers op) (onTrackers op') := by
  intro w w' halike
  obtain ⟨hanswers, hrecords, hkeeps, hkeeps'⟩ := h _ _ halike.records
  have hknows : Knows K (w.withStore (runOn op w.registry.store).2).registry :=
    halike.knows.congr rfl (fun t => hkeeps t.text .lookupTable nofun nofun)
      fun venue => hkeeps venue.text .poolKeys nofun nofun
  have hknows' : Knows K (w'.withStore (runOn op' w'.registry.store).2).registry :=
    halike.knows'.congr rfl (fun t => hkeeps' t.text .lookupTable nofun nofun)
      fun venue => hkeeps' venue.text .poolKeys nofun nofun
  have hlooked : ∀ key name, IsLookField name →
      (runOn op' w'.registry.store).2.get? key name ≠ none →
      (runOn op w.registry.store).2.get? key name =
        (runOn op' w'.registry.store).2.get? key name := by
    intro key name hlook hsome
    obtain ⟨field, rfl, htracker, hledger⟩ := hlook.exists_field
    have hleft := hkeeps key field htracker hledger
    have hright := hkeeps' key field htracker hledger
    exact hleft.trans ((halike.looked key _ hlook (hright ▸ hsome)).trans hright.symm)
  rw [runOn_onTrackers, runOn_onTrackers]
  refine ⟨hanswers.mapError _, ?_, [], rfl, rfl⟩
  exact
    { halike with
      records := hrecords
      looked := hlooked
      knows := hknows
      knows' := hknows' }

/-- A trade is recorded in both under the same number. -/
theorem besides_record (e : Envelope) (facts : Facts) (site : SwapSite)
    (seconds seconds' : Int64) :
    (beside K).Permits Eq (record (tradeOf e facts site seconds))
      (record (tradeOf e facts site seconds')) := by
  intro w w' halike
  rw [runOn_record (tradeOf_fits ..), runOn_record (tradeOf_fits ..)]
  refine ⟨.ok (congrArg (· + 1) halike.trades.lastId), ?_, [], rfl, rfl⟩
  exact { halike with trades := halike.trades.withTrade (tradeOf e facts site seconds) seconds' }

theorem besides_tell (notice : Notice) :
    (beside K).Allows Eq (tell notice) (tell notice) :=
  fun _ _ halike => ⟨rfl, halike.later _ _ _ _, [notice], rfl, rfl⟩

theorem besides_wait (millis : Nat) : (beside K).Allows Eq (wait millis) (wait millis) :=
  fun _ _ halike => ⟨rfl, halike.later _ _ _ _, [], rfl, rfl⟩

/-! ## Triggers -/

/-- Both have the same hash to sign with. -/
theorem besides_signingHash (hcounts : K.reader.CountsHashes) :
    (beside K).Allows Eq signingHash signingHash := by
  intro w w' halike
  by_cases hzero : w.blockhash = .zero
  · have hzero' : w'.blockhash = .zero := halike.blockhash ▸ hzero
    have hanswer : w.registry.reader.blockhash w.registry.asked =
        w'.registry.reader.blockhash w'.registry.asked := by
      rw [halike.knows.reader, halike.knows'.reader]
      exact hcounts _ _ halike.hashReads
    have hreads : (w.registry.withAsked .blockhash).hashReads =
        (w'.registry.withAsked .blockhash).hashReads := by
      unfold Registry.hashReads Registry.withAsked
      rw [List.count_cons_self, List.count_cons_self]
      exact congrArg (· + 1) halike.hashReads
    rw [run_signingHash_told hzero, run_signingHash_told hzero']
    refine ⟨hanswer, ?_, [], rfl, rfl⟩
    exact
      { halike with
        knows := halike.knows.of_asks rfl
        knows' := halike.knows'.of_asks rfl
        hashReads := hreads }
  · have hsome' : w'.blockhash ≠ .zero := halike.blockhash ▸ hzero
    rw [run_signingHash_latest hzero, run_signingHash_latest hsome', halike.blockhash]
    exact ⟨rfl, halike, [], rfl, rfl⟩

/-- The same is sent, and the same channels fail. -/
theorem besides_carryOut (x : Executor) (intent : Intent) (blockhash : Key) :
    (beside K).Allows Eq (carryOut x intent blockhash) (carryOut x intent blockhash) := by
  intro w w' halike
  let told (r : Router) :=
    (Executor.warnings intent (x.execute intent blockhash r).1).reverse.map Notice.warn
  have hsent := congrArg (fun r => (x.execute intent blockhash r).2) halike.router
  have htold : told w'.router = told w.router := congrArg told halike.router.symm
  refine ⟨rfl, ?_, told w.router, rfl, congrArg (· ++ w'.notices) htold⟩
  exact { halike with router := hsent }

/-- The same event is noted in both. -/
theorem besides_shown (trigger : Trigger) :
    (beside K).Allows Eq
      (modify fun w => { w with fired := trigger :: w.fired } : StateM State PUnit)
      (modify fun w => { w with fired := trigger :: w.fired }) := by
  intro w w' halike
  refine ⟨rfl, ?_, [], rfl, rfl⟩
  exact { halike with fired := congrArg (trigger :: ·) halike.fired }

/-- An event is carried out in both the same way. -/
theorem besides_fire (hcounts : K.reader.CountsHashes) (s : Setup) (trigger : Trigger) :
    (beside K).Allows Eq (fire s trigger) (fire s trigger) := by
  refine Tandem.allows_bind (besides_shown trigger) fun _ _ _ => ?_
  cases s.strategy trigger with
  | none => exact Tandem.allows_pure rfl
  | some intent =>
    cases s.executor with
    | none => exact besides_tell _
    | some x =>
      refine Tandem.allows_bind (besides_signingHash hcounts) ?_
      rintro answer _ rfl
      cases answer with
      | error text => exact besides_tell _
      | ok blockhash => exact besides_carryOut x intent blockhash

/-! ## Handling -/

theorem besides_resolve (e : Envelope) (ix : CompiledInstruction) (position : Nat) :
    (beside K).Permits Eq (onRegistry .resolve (Registry.resolve e ix position))
      (onRegistry .resolve (Registry.resolve e ix position)) :=
  besides_onRegistry _ (Registry.permits_resolve e ix position)
    (Registry.adds_resolve e ix position)

/-- All that is handled goes together, whatever is traded on. -/
theorem covers_beside (hcounts : K.reader.CountsHashes) (s : Setup) :
    CoversBoth (beside K) (fun _ => True) Eq s where
  resolve := besides_resolve
  poolKeys venue :=
    besides_onRegistry _ (Registry.permits_poolKeys venue) (Registry.adds_poolKeys venue)
  balance keys := besides_onRegistry _ (Registry.fetches_nativeBalance keys).permits
    (Registry.adds_nativeBalance keys)
  status venue _ := besides_onTrackers (Tracking.permits_status venue)
  opening venue now now' _ := besides_onTrackers (Tracking.permits_handleOpening now now' venue)
  withdraw venue reserve now now' _ :=
    besides_onTrackers (Tracking.permits_handleWithdraw s.policy now now' venue reserve)
  selfSwap venue amount succeeded now now' _ := besides_onTrackers
    (Tracking.permits_handleSelfSwap s.policy now now' venue amount succeeded)
  record := besides_record
  fire := besides_fire hcounts s
  tell := besides_tell
  wait := besides_wait

/-- Both find the same venues. -/
theorem finds_beside (e : Envelope) : FindsAmong (beside K) (fun _ => True) e where
  opening _ _ _ := Tandem.permits_mono (besides_resolve e _ _) fun _ _ hsame => ⟨hsame, trivial⟩
  withdrawal _ _ _ :=
    Tandem.permits_mono (besides_resolve e _ _) fun _ _ hsame => ⟨hsame, trivial⟩
  swap _ := Tandem.permits_mono (besides_resolve e _ _) fun _ _ hsame => ⟨hsame, trivial⟩

end Parts

end Watcher

end PoolWatch
