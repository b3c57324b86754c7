import PoolWatch.Proofs.Watcher.Abreast
import PoolWatch.Proofs.Watcher.SentFacts
import PoolWatch.Proofs.Watcher.Sightings

/-! # Envelopes about different venues

    Two envelopes that name different venues may be taken in either order.
    The first to be taken finds the chain as it was, and the second finds the
    same known of it and its own venues untouched; so each of them is handled
    alike whether it comes first or second (`process_abreast`), and what the
    two leave behind meets again.

    This asks for a node that answers the same whenever it is asked, and for
    a strategy that never trades.  What a venue is resolved to may depend on
    tables that only the other envelope has made the watcher keep, which is
    why what is known of the chain is followed and not what is kept. -/

namespace PoolWatch.Watcher

open Registry (Knows SameTexts)
open Tracking (statusOf ledgerOf told)

/-! ## Signatures -/

/-- To take an envelope makes no other one a duplicate. -/
theorem remembers_process {s : Setup} {e e' : Envelope} {w : State}
    (hnew : w.seen.remembers w.time e.signature = false)
    (hnew' : w.seen.remembers w.time e'.signature = false)
    (hsignatures : e.signature ≠ e'.signature) :
    ((process s e).run w).2.seen.remembers ((process s e).run w).2.time e'.signature = false := by
  obtain ⟨hseen, htime⟩ := (covers_keepsSeen s).process (e := e) hnew
  rw [hseen, Bool.eq_false_iff]
  intro hremembers
  rcases (Sightings.remembers_note htime).1 hremembers with ⟨hsame, -⟩ | hearlier
  · exact hsignatures hsame
  · -- what is remembered later was remembered before
    obtain ⟨sighting, hmem, hsignature, hexpiry⟩ := Sightings.remembers_iff.1 hearlier
    have hnow : w.seen.remembers w.time e'.signature = true :=
      Sightings.remembers_iff.2 ⟨sighting, hmem, hsignature, Nat.lt_of_le_of_lt htime hexpiry⟩
    exact Bool.false_ne_true (hnew'.symm.trans hnow)

/-! ## Meeting again -/

/-- Two watchers that tell the same of every venue, and keep the same of
    tables and pools. -/
structure SameRecords (w w' : State) : Prop where
  status : ∀ venue, statusOf w.registry.store venue = statusOf w'.registry.store venue
  ledger : ∀ venue, ledgerOf w.registry.store venue = ledgerOf w'.registry.store venue
  tables : ∀ name, w.registry.store.get? name Store.Field.lookupTable.name =
    w'.registry.store.get? name Store.Field.lookupTable.name
  pools : ∀ name, w.registry.store.get? name Store.Field.poolKeys.name =
    w'.registry.store.get? name Store.Field.poolKeys.name

/-- Texts that two steps write, each from where it was and from where the
    other one led, are the same in the end: what is written is what is known. -/
theorem sameTexts_meet {known : Key → Option String} {field : Store.Field} {s a b c d : Store}
    (h : SameTexts known field (s, b) (a, d)) (h' : SameTexts known field (s, a) (b, c))
    (name : String) : c.get? name field.name = d.get? name field.name := by
  obtain ⟨ha, hd⟩ | ⟨k, hk, ha, hd⟩ := h name <;> obtain ⟨hb, hc⟩ | ⟨k', hk', hb, hc⟩ := h' name
  · -- neither writes
    exact hc.trans (ha.trans (hb.symm.trans hd.symm))
  · -- the second writes, also when it comes first
    exact hc.trans (hb.symm.trans hd.symm)
  · -- the first writes, also when it comes second
    exact hc.trans (ha.trans hd.symm)
  · -- both write, and what they write depends on the key alone
    obtain rfl : k = k' := Key.text_inj.1 (hk.symm.trans hk')
    exact hc.trans hd.symm

section Meeting

variable {K : Registry.Knowledge} {venues venues' : Key → Prop} {w a b c d : State}

/-- What is told of a venue is the same in the end of two steps that have
    different venues, each taken abreast of itself after the other one. -/
theorem told_meet (hapart : ∀ venue, venues venue → ¬ venues' venue)
    (halike : Alike K venues a d) (hmoves : Moves K venues (w, b) (a, d))
    (halike' : Alike K venues' b c) (hmoves' : Moves K venues' (w, a) (b, c)) (venue : Key) :
    told c.registry.store venue = told d.registry.store venue := by
  by_cases hown : venues venue
  · -- the first step has brought the venue to where it stays
    exact (hmoves'.apart venue (hapart venue hown)).2.trans (halike.told venue hown)
  obtain ⟨ha, hd⟩ := hmoves.apart venue hown
  by_cases hother : venues' venue
  · exact (halike'.told venue hother).symm.trans hd.symm
  · -- nobody's venue stays as it was at the start
    obtain ⟨hb, hc⟩ := hmoves'.apart venue hother
    exact hc.trans (ha.trans (hb.symm.trans hd.symm))

/-- Two such steps lead to the same records. -/
theorem sameRecords_meet (hapart : ∀ venue, venues venue → ¬ venues' venue)
    (halike : Alike K venues a d) (hmoves : Moves K venues (w, b) (a, d))
    (halike' : Alike K venues' b c) (hmoves' : Moves K venues' (w, a) (b, c)) :
    SameRecords c d := by
  have htold := fun venue =>
    Tracking.told_eq_iff.1 (told_meet hapart halike hmoves halike' hmoves' venue)
  exact
    { status := fun venue => (htold venue).1
      ledger := fun venue => (htold venue).2
      tables := sameTexts_meet hmoves.tables hmoves'.tables
      pools := sameTexts_meet hmoves.pools hmoves'.pools }

end Meeting

/-! ## Either order -/

section Orders

variable {s : Setup} {e e' : Envelope} {w : State}

/-- After an envelope that names none of some venues, the same is known as
    before, and the same is told of those venues. -/
theorem alike_process {venues : Key → Prop} (hidle : s.strategy = .idle)
    (hfixed : w.registry.reader.IsFixed) (hnew : w.seen.remembers w.time e.signature = false)
    (hvenues : ∀ venue, venues venue → ¬ Names w.registry e venue) :
    Alike w.registry.knowledge venues w ((process s e).run w).2 := by
  have hknows : Knows w.registry.knowledge w.registry := ⟨hfixed, rfl⟩
  have hwithin : NamesWithin w.registry.knowledge (Names w.registry e) e :=
    fun r venue hr h => h.of_knows hr hknows
  -- the envelope beside itself
  obtain ⟨-, halike, hmoves⟩ :=
    process_abreast hidle hwithin hnew hnew ⟨hknows, hknows, fun _ _ => rfl⟩
  exact ⟨hknows, halike.knows, fun venue h => (hmoves.apart venue (hvenues venue h)).1.symm⟩

/-- An envelope is handled alike at once and after another one that names
    none of its venues. -/
theorem process_after (hidle : s.strategy = .idle) (hfixed : w.registry.reader.IsFixed)
    (hnew : w.seen.remembers w.time e.signature = false)
    (hnew' : w.seen.remembers w.time e'.signature = false)
    (hsignatures : e'.signature ≠ e.signature)
    (hvenues : ∀ venue, Names w.registry e venue → ¬ Names w.registry e' venue) :
    (abreast w.registry.knowledge (Names w.registry e)).After
      (fun x y => x.unnumbered = y.unnumbered) w ((process s e').run w).2
      ((process s e).run w) ((process s e).run ((process s e').run w).2) := by
  have hknows : Knows w.registry.knowledge w.registry := ⟨hfixed, rfl⟩
  exact process_abreast hidle (fun r venue hr h => h.of_knows hr hknows) hnew
    (remembers_process hnew' hnew hsignatures) (alike_process hidle hfixed hnew' hvenues)

end Orders

/-- Two envelopes with different signatures, neither of them a duplicate, of
    which neither names a venue of the other, may be taken in either order.
    Each is answered the same but for the number of a row, and appends the
    same row but for its number and its time; and both orders end with the
    same records of venues, tables and pools. -/
theorem process_commutes (s : Setup) (w : State) (e e' : Envelope) (hidle : s.strategy = .idle)
    (hfixed : w.registry.reader.IsFixed)
    (hnew : w.seen.remembers w.time e.signature = false)
    (hnew' : w.seen.remembers w.time e'.signature = false)
    (hsignatures : e.signature ≠ e'.signature)
    (hvenues : ∀ venue, Names w.registry e venue → ¬ Names w.registry e' venue) :
    let first := (process s e).run w
    let second := (process s e').run first.2
    let first' := (process s e').run w
    let second' := (process s e).run first'.2
    first.1.unnumbered = second'.1.unnumbered ∧
      second.1.unnumbered = first'.1.unnumbered ∧
      SameRecords second.2 second'.2 ∧
      ∃ own own' other other',
        first.2.trades.rows = own ++ w.trades.rows ∧
        second.2.trades.rows = other ++ first.2.trades.rows ∧
        first'.2.trades.rows = other' ++ w.trades.rows ∧
        second'.2.trades.rows = own' ++ first'.2.trades.rows ∧
        own.map Row.unstamped = own'.map Row.unstamped ∧
        other.map Row.unstamped = other'.map Row.unstamped := by
  intro first second first' second'
  obtain ⟨hanswer, halike, hmoves⟩ := process_after hidle hfixed hnew hnew' hsignatures.symm hvenues
  obtain ⟨hanswer', halike', hmoves'⟩ := process_after hidle hfixed hnew' hnew hsignatures
    fun venue hother hown => hvenues venue hown hother
  obtain ⟨own, own', hrows, hrows', hsame⟩ := hmoves.rows
  obtain ⟨other', other, hmore', hmore, hsame'⟩ := hmoves'.rows
  exact ⟨hanswer, hanswer'.symm, sameRecords_meet hvenues halike hmoves halike' hmoves', own, own',
    other, other', hrows, hmore, hmore', hrows', hsame, hsame'.symm⟩

/-! ## A sale and an opening elsewhere -/

namespace SaleSample

def elsewhere : Key := .ofNat 6

/-- The opening of another venue. -/
def opening : Envelope :=
  { Envelope.empty with
    signature := "opening"
    accountKeys := [Address.venueProgram, elsewhere]
    instructions := [⟨0, [1, 1, 1, 1, 1], [Instruction.openPoolTag]⟩] }

/-- A watcher that tracks the other venue, in front of the node. -/
def watchingElsewhere : State :=
  start ⟨Tracking.withStatus 0 elsewhere .both .empty, node, []⟩

theorem knowsPool_watchingElsewhere :
    watchingElsewhere.registry.KnowsPool venue (order Address.orderBookProgram).keys := by
  refine .told ?_
    (fun past => ⟨_, account_venue past, Registry.decode_encode _ (pool _)⟩)
    (fun past => ⟨_, account_market past, Registry.decode_encode _ market⟩) rfl
  -- a status is no record of a pool
  have hcell : watchingElsewhere.registry.store.get? venue.text Store.Field.poolKeys.name =
      Store.empty.get? venue.text Store.Field.poolKeys.name :=
    (Store.get?_putRecord ..).trans (if_neg fun h => nomatch h.2)
  exact (Store.record?_congr hcell).trans (Store.record?_empty ..)

theorem isFixed_node : node.IsFixed where
  account _ _ _ := rfl
  balance _ _ _ := rfl

theorem names_opening {r : Registry} {named : Key} (h : Names r opening named) :
    named = elsewhere := by
  cases h with
  | opening hix _ _ hresolve =>
    obtain rfl := List.mem_singleton.1 hix
    exact (Except.ok.inj hresolve).symm
  | withdrawal hix _ hdecode _ =>
    obtain rfl := List.mem_singleton.1 hix
    cases hdecode
  | swap hswap _ => cases hswap

section Sale

variable {m : Message}
  (hm : Swap.message setup.bot native executor.options (order Address.orderBookProgram) .direct
    .zero = .ok m)

include hm

theorem standsFor_sale : List.Forall₂ (StandsFor (executed m)) (executed m).instructions
    (Swap.opening setup.bot (.ofNat 3) (order Address.orderBookProgram) ++
      Swap.traded setup.bot native (.ofNat 3) (order Address.orderBookProgram) ::
        Swap.closing setup.bot executor.options .direct) :=
  standsFor_sent hm ⟨rfl, rfl, rfl⟩ rfl (mint_order _)

/-- Only the swap of the sale is an instruction of the watched program. -/
theorem data_sale {ix : CompiledInstruction} (hix : ix ∈ (executed m).instructions)
    (hprogram : (executed m).programOf? ix = some Address.venueProgram) :
    ix.data = Instruction.encodeSwap 500 1 := by
  obtain ⟨limit, _, hlimit, htwo, hinstructions⟩ :=
    List.forall₂_cons_right_iff.1 (standsFor_sale hm)
  obtain ⟨price, _, hprice, hone, rfl⟩ := List.forall₂_cons_right_iff.1 htwo
  obtain ⟨swap, _, hswap, hnone, rfl⟩ := List.forall₂_cons_right_iff.1 hone
  obtain rfl := List.forall₂_nil_right_iff.1 hnone
  have hbudget : Address.computeBudgetProgram ≠ Address.venueProgram := by decide
  rw [hinstructions, List.mem_cons, List.mem_cons, List.mem_singleton] at hix
  rcases hix with rfl | rfl | rfl
  · exact absurd (Option.some.inj (hlimit.program.symm.trans hprogram)) hbudget
  · exact absurd (Option.some.inj (hprice.program.symm.trans hprogram)) hbudget
  · exact hswap.data

theorem names_sale {r : Registry} {named : Key} (h : Names r (executed m) named) :
    named = venue := by
  cases h with
  | opening hix hprogram hdecode _ =>
    rw [data_sale hm hix hprogram] at hdecode
    cases hdecode
  | withdrawal hix hprogram hdecode _ =>
    rw [data_sale hm hix hprogram] at hdecode
    cases hdecode
  | swap hswap hresolve =>
    have hcalls := (standsFor_sale hm).imp fun _ _ h => h.carries r
    obtain ⟨facts, ix, hscan, hcarries⟩ := scanAll_calls setup hcalls rfl watching
    rw [scanAll_eq] at hscan
    have hgathered : gathered (executed m) = ⟨facts, some ix⟩ := (Prod.mk.inj hscan).1
    rw [hgathered] at hswap
    obtain rfl := Option.some.inj hswap
    have hvenue : (runOn (Registry.resolve (executed m) ix swapVenue) r).1 = .ok venue :=
      hcarries.resolve rfl
    exact Except.ok.inj (hresolve.symm.trans hvenue)

end Sale

/-- The opening pauses the other venue. -/
theorem paused_opening :
    statusOf ((process setup opening).run watchingElsewhere).2.registry.store elsewhere =
      .ok .paused := by
  let w := noteArrival setup opening watchingElsewhere
  let ix : CompiledInstruction := ⟨0, [1, 1, 1, 1, 1], [Instruction.openPoolTag]⟩
  have hstatus : statusOf w.registry.store elsewhere = .ok .both :=
    Tracking.statusOf_withStatus_self 0 elsewhere .both .empty
  have hresolve : runOn (onRegistry .resolve (Registry.resolve opening ix openPoolVenue)) w =
      (.ok elsewhere, w) := rfl
  have htrack : runOn (onTrackers (Tracking.handleOpening (setup.wallClock w) elsewhere)) w =
      (.ok (some .paused),
        w.withStore (Tracking.withStatus (setup.wallClock w) elsewhere .paused
          w.registry.store)) := by
    rw [runOn_onTrackers, Tracking.runOn_handleOpening _ hstatus]
    rfl
  have hhandle : runOn (handleOpening setup opening ix) w =
      (.ok (), w.withStore (Tracking.withStatus (setup.wallClock w) elsewhere .paused
        w.registry.store)) := by
    unfold handleOpening
    rw [runOn_bind_ok hresolve, runOn_bind_ok (runOn_get w), runOn_bind_ok htrack]
    rfl
  have hprocess : ((process setup opening).run watchingElsewhere).2 =
      ((attempt opening.signature "initialize2" (handleOpening setup opening ix)).run w).2 := rfl
  rw [hprocess, run_attempt_ok _ _ hhandle]
  exact Tracking.statusOf_withStatus_self ..

/-- The sale and the opening may be taken in either order, although each of
    them does something: the sale is recorded, and the opening pauses the
    other venue. -/
theorem sale_commutes : ∃ m,
    Swap.message setup.bot native executor.options (order Address.orderBookProgram) .direct
        .zero = .ok m ∧
      let sold := (process setup (executed m)).run watchingElsewhere
      let opened := (process setup opening).run watchingElsewhere
      sold.2.trades.rows ≠ [] ∧ statusOf opened.2.registry.store elsewhere = .ok .paused ∧
        ((process setup opening).run sold.2).1.unnumbered = opened.1.unnumbered ∧
        sold.1.unnumbered = ((process setup (executed m)).run opened.2).1.unnumbered ∧
        SameRecords ((process setup opening).run sold.2).2
          ((process setup (executed m)).run opened.2).2 := by
  obtain ⟨m, hm⟩ := exists_sale Address.orderBookProgram
  have hne : venue ≠ elsewhere := by decide
  have hstatus : statusOf watchingElsewhere.registry.store venue = .ok .notTracked :=
    (Tracking.statusOf_withStatus_ne hne ..).trans (Tracking.statusOf_empty venue)
  have hown : TakenAsOwn setup (executed m) (order Address.orderBookProgram).keys (.ofNat 3)
      watchingElsewhere ((process setup (executed m)).run watchingElsewhere).2 :=
    (process_sent (s := setup) rfl hm ⟨rfl, rfl, rfl⟩ nofun knowsPool_watchingElsewhere rfl hstatus
      (mint_order _)).1 ((signer_readParties rfl ..).trans (if_pos rfl))
  obtain ⟨facts, seconds, htrade⟩ := hown.trade
  have hsignatures : (executed m).signature ≠ opening.signature := by
    show "" ≠ "opening"
    decide
  obtain ⟨hanswer, hanswer', hrecords, -⟩ := process_commutes setup watchingElsewhere (executed m)
    opening rfl isFixed_node rfl rfl hsignatures fun named hsale hopening =>
      hne ((names_sale hm hsale).symm.trans (names_opening hopening))
  refine ⟨m, hm, ?_, paused_opening, hanswer', hanswer, hrecords⟩
  rw [htrade]
  exact List.cons_ne_nil _ _

end SaleSample

end PoolWatch.Watcher
