import PoolWatch.Proofs.Tracking.Operations

/-! # The life of a venue

    Openings, withdrawals and own swaps come in any order and about any
    venues.  Each acts on the status and the ledger of its own venue in the
    way that `Event.effect` says, and leaves every other venue alone.

    Status and ledger are two records, and no operation compares them.  Still
    a venue with an open ledger is never one that is not tracked: opening a
    ledger tracks the venue, a pause keeps it on record, and only the draw
    that closes the ledger lets it go.  `reachable_lifecycle` states this,
    and every change of status that there is, of all runs. -/

namespace PoolWatch.Tracking

/-! ## Ledgers -/

/-- A ledger with something left to sell, of an amount that can be stored. -/
structure Ledger.IsOpen (splitter : UInt64) (l : Ledger) : Prop where
  remaining_pos : 0 < l.remaining
  remaining_le : l.remaining ≤ l.total
  stage_eq : l.stage = l.total / max splitter.toNat 1
  total_le : l.total ≤ Ledger.maxAmount

namespace Ledger

variable {splitter : UInt64} {l : Ledger}

theorem isOpen_start {total : Nat} (hpos : total ≠ 0) (hle : total ≤ maxAmount) :
    (start total splitter).IsOpen splitter where
  remaining_pos := Nat.pos_of_ne_zero hpos
  remaining_le := Nat.le_refl total
  stage_eq := rfl
  total_le := hle

theorem IsOpen.consume (h : l.IsOpen splitter) {amount : Nat}
    (hleft : (l.consume amount).isExhausted = false) : (l.consume amount).IsOpen splitter where
  remaining_pos := by
    have hne : (l.consume amount).remaining ≠ 0 := by simpa [isExhausted] using hleft
    exact Nat.pos_of_ne_zero hne
  remaining_le := Nat.le_trans (Nat.sub_le _ _) h.remaining_le
  stage_eq := h.stage_eq
  total_le := h.total_le

theorem isOpen_draw {amount : Nat} (hpos : amount ≠ 0) (hle : amount ≤ maxAmount)
    {ledger : Option Ledger} (h : ∀ l ∈ ledger, l.IsOpen splitter) :
    ∀ l ∈ draw splitter ledger amount, l.IsOpen splitter := by
  intro l hl
  cases ledger with
  | none =>
    obtain rfl : start amount splitter = l := Option.some.inj hl
    exact isOpen_start hpos hle
  | some before =>
    rw [draw_some] at hl
    by_cases hleft : (before.consume amount).isExhausted = true
    · rw [if_pos hleft] at hl
      cases hl
    · rw [if_neg hleft] at hl
      obtain rfl : before.consume amount = l := Option.some.inj hl
      -- what is left is still of the amount that the ledger was opened with
      exact (h before rfl).consume (Bool.eq_false_iff.2 hleft)

end Ledger

theorem toNat_le_maxAmount (amount : Word128) : amount.toNat ≤ Ledger.maxAmount :=
  Nat.le_of_lt_succ amount.isLt

/-! ## Events -/

/-- Something that happened on the chain. -/
inductive Event where
  | opening (venue : Key)
  | withdraw (venue : Key) (reserve : UInt64)
  | selfSwap (venue : Key) (amount : Word128) (succeeded : Bool)
  deriving DecidableEq

namespace Event

/-- The venue that an event is about. -/
def venue : Event → Key
  | opening venue => venue
  | withdraw venue _ => venue
  | selfSwap venue _ _ => venue

/-- Handles an event. -/
def handle (policy : Policy) (now : Int64) : Event → TrackM Unit
  | opening venue => do let _ ← handleOpening now venue
  | withdraw venue reserve => do let _ ← handleWithdraw policy now venue reserve
  | selfSwap venue amount succeeded => do
    let _ ← handleSelfSwap policy now venue amount.toNat succeeded

/-- The store after an event. -/
def after (policy : Policy) (now : Int64) (e : Event) (s : Store) : Store :=
  (runOn (e.handle policy now) s).2

/-- What an event makes of the status and the ledger of its venue. -/
def effect (policy : Policy) (status : Status) (ledger : Option Ledger) :
    Event → Status × Option Ledger
  | opening _ => ((onOpening status).getD status, ledger)
  | withdraw _ reserve => ((onWithdraw policy status reserve).getD status, ledger)
  | selfSwap _ amount succeeded =>
    if succeeded = true ∧ amount.toNat ≠ 0 then
      match ledger with
      | none => (.both, some (.start amount.toNat policy.splitter))
      | some l =>
        if (l.consume amount.toNat).isExhausted then (.notTracked, none)
        else (status, some (l.consume amount.toNat))
    else (status, ledger)

section Effect

variable (policy : Policy) (status : Status) (ledger : Option Ledger) (venue : Key)

@[simp] theorem effect_opening :
    (opening venue).effect policy status ledger = ((onOpening status).getD status, ledger) := rfl

@[simp] theorem effect_withdraw (reserve : UInt64) :
    (withdraw venue reserve).effect policy status ledger =
      ((onWithdraw policy status reserve).getD status, ledger) := rfl

/-- A swap that failed or moved nothing has no effect. -/
theorem effect_selfSwap_skipped {amount : Word128} {succeeded : Bool}
    (h : ¬ (succeeded = true ∧ amount.toNat ≠ 0)) :
    (selfSwap venue amount succeeded).effect policy status ledger = (status, ledger) :=
  if_neg h

theorem effect_selfSwap_none {amount : Word128} (hpos : amount.toNat ≠ 0) :
    (selfSwap venue amount true).effect policy status none =
      (.both, some (.start amount.toNat policy.splitter)) :=
  if_pos ⟨rfl, hpos⟩

theorem effect_selfSwap_some {amount : Word128} (hpos : amount.toNat ≠ 0) (l : Ledger) :
    (selfSwap venue amount true).effect policy status (some l) =
      if (l.consume amount.toNat).isExhausted then (.notTracked, none)
      else (status, some (l.consume amount.toNat)) :=
  if_pos ⟨rfl, hpos⟩

/-- What a swap that succeeded and moved something makes of the ledger. -/
theorem effect_selfSwap_ledger {amount : Word128} (hpos : amount.toNat ≠ 0) :
    ((selfSwap venue amount true).effect policy status ledger).2 =
      Ledger.draw policy.splitter ledger amount.toNat := by
  cases ledger with
  | none => rw [effect_selfSwap_none policy status venue hpos, Ledger.draw_none]
  | some l =>
    rw [effect_selfSwap_some policy status venue hpos, Ledger.draw_some]
    split <;> rfl

end Effect

end Event

/-- The stores that some events, one after the other, lead to. -/
inductive Reachable (policy : Policy) : Store → Prop where
  | empty : Reachable policy .empty
  | step {s : Store} (now : Int64) (e : Event) :
      Reachable policy s → Reachable policy (e.after policy now s)

/-! ## Steps -/

section Steps

variable {policy : Policy} (now : Int64) {s : Store}

theorem runOn_discard {ε σ α : Type} (op : ExceptT ε (StateM σ) α) (s : σ) :
    runOn (do let _ ← op) s = ((runOn op s).1.map fun _ => (), (runOn op s).2) := by
  rw [runOn_bind]
  split <;> rename_i h <;> rw [h] <;> rfl

/-- Nothing that an event does shows in another venue. -/
theorem after_of_ne {e : Event} {other : Key} (h : other ≠ e.venue) :
    statusOf (e.after policy now s) other = statusOf s other ∧
      ledgerOf (e.after policy now s) other = ledgerOf s other := by
  unfold Event.after
  cases e with
  | opening venue =>
    -- whether the status reads or not, only the venue's own record is written
    have hvenue : other ≠ venue := h
    rw [Event.handle, runOn_discard]
    cases hstatus : statusOf s venue with
    | error err => rw [runOn_handleOpening_error now hstatus]; exact ⟨rfl, rfl⟩
    | ok current =>
      rw [runOn_handleOpening now hstatus]
      cases onOpening current with
      | none => exact ⟨rfl, rfl⟩
      | some next => exact ⟨statusOf_withStatus_ne hvenue now next s, ledgerOf_withStatus ..⟩
  | withdraw venue reserve =>
    have hvenue : other ≠ venue := h
    rw [Event.handle, runOn_discard]
    cases hstatus : statusOf s venue with
    | error err =>
      rw [runOn_handleWithdraw_error policy now reserve hstatus]
      exact ⟨rfl, rfl⟩
    | ok current =>
      rw [runOn_handleWithdraw policy now reserve hstatus]
      cases onWithdraw policy current reserve with
      | none => exact ⟨rfl, rfl⟩
      | some next => exact ⟨statusOf_withStatus_ne hvenue now next s, ledgerOf_withStatus ..⟩
  | selfSwap venue amount succeeded =>
    rw [Event.handle, runOn_discard]
    exact handleSelfSwap_ne policy now h amount.toNat succeeded

/-- An event about a venue that is in order is handled, and its effect is
    what the store then tells of the venue. -/
theorem after_self (e : Event) {status : Status} {ledger : Option Ledger}
    (hstatus : statusOf s e.venue = .ok status) (hledger : ledgerOf s e.venue = .ok ledger) :
    (runOn (e.handle policy now) s).1 = .ok () ∧
      statusOf (e.after policy now s) e.venue = .ok (e.effect policy status ledger).1 ∧
      ledgerOf (e.after policy now s) e.venue = .ok (e.effect policy status ledger).2 := by
  unfold Event.after
  cases e with
  | opening venue =>
    simp only [Event.venue] at hstatus hledger ⊢
    rw [Event.handle, runOn_discard, runOn_handleOpening now hstatus, Event.effect_opening]
    refine ⟨rfl, ?_⟩
    cases onOpening status with
    | none => exact ⟨hstatus, hledger⟩
    | some next => simpa [withNext] using hledger
  | withdraw venue reserve =>
    simp only [Event.venue] at hstatus hledger ⊢
    rw [Event.handle, runOn_discard, runOn_handleWithdraw policy now reserve hstatus,
      Event.effect_withdraw]
    refine ⟨rfl, ?_⟩
    cases onWithdraw policy status reserve with
    | none => exact ⟨hstatus, hledger⟩
    | some next => simpa [withNext] using hledger
  | selfSwap venue amount succeeded =>
    simp only [Event.venue] at hstatus hledger ⊢
    rw [Event.handle, runOn_discard]
    by_cases hgo : succeeded = true ∧ amount.toNat ≠ 0
    · obtain ⟨rfl, hpos⟩ := hgo
      rw [runOn_handleSelfSwap_of_pos policy now hpos, hledger]
      cases ledger with
      | none =>
        rw [Event.effect_selfSwap_none policy status venue hpos]
        refine ⟨rfl, statusOf_withStatus_self .., ?_⟩
        rw [ledgerOf_withStatus]
        exact ledgerOf_withLedger_self venue (Ledger.fits_start (toNat_le_maxAmount amount)) s
      | some l =>
        -- the ledger is dropped with its last draw, and the venue with it
        rw [Event.effect_selfSwap_some policy status venue hpos]
        dsimp only
        by_cases hleft : (l.consume amount.toNat).isExhausted = true
        · rw [if_pos hleft, if_pos hleft]
          refine ⟨rfl, statusOf_withStatus_self .., ?_⟩
          rw [ledgerOf_withStatus, ledgerOf_withoutLedger_self]
        · rw [if_neg hleft, if_neg hleft]
          have hfits := (fits_of_ledgerOf hledger).consume amount.toNat
          refine ⟨rfl, ?_, ledgerOf_withLedger_self venue hfits s⟩
          rw [statusOf_withLedger]
          exact hstatus
    · rw [runOn_handleSelfSwap_skipped policy now hgo, Event.effect_selfSwap_skipped _ _ _ _ hgo]
      exact ⟨rfl, hstatus, hledger⟩

end Steps

/-! ## The invariant -/

/-- A venue can be read, and is tracked or paused while its ledger is open. -/
def Sound (policy : Policy) (s : Store) (venue : Key) : Prop :=
  ∃ status ledger, statusOf s venue = .ok status ∧ ledgerOf s venue = .ok ledger ∧
    ∀ l ∈ ledger, l.IsOpen policy.splitter ∧ status ≠ .notTracked

/-- What an opening can make of a status. -/
theorem onOpening_eq_some {status next : Status} (h : onOpening status = some next) :
    next = .paused ∧ status.isTracked = true := by
  unfold onOpening at h
  split at h
  · next htracked => exact ⟨(Option.some.inj h).symm, htracked⟩
  · cases h

/-- What a withdrawal can make of a status. -/
theorem onWithdraw_eq_some {policy : Policy} {status next : Status} {reserve : UInt64}
    (h : onWithdraw policy status reserve = some next) :
    reserve ≤ policy.floor ∧
      (status = .paused ∧ next = .both ∨ status = .notTracked ∧ next = policy.withdrawMode) := by
  unfold onWithdraw at h
  split at h
  · cases h
  · next hfloor =>
    refine ⟨UInt64.not_lt.1 hfloor, ?_⟩
    cases status <;> simp_all

/-- An event keeps a venue in order, if withdrawals can only track. -/
theorem effect_sound {policy : Policy} (hmode : policy.withdrawMode ≠ .notTracked) (e : Event)
    {status : Status} {ledger : Option Ledger}
    (h : ∀ l ∈ ledger, l.IsOpen policy.splitter ∧ status ≠ .notTracked) :
    ∀ l ∈ (e.effect policy status ledger).2,
      l.IsOpen policy.splitter ∧ (e.effect policy status ledger).1 ≠ .notTracked := by
  intro l hl
  cases e with
  | opening venue =>
    obtain ⟨hopen, hstatus⟩ := h l hl
    refine ⟨hopen, ?_⟩
    -- a pause keeps the venue on record, so the ledger may stay open
    rw [Event.effect_opening]
    cases hnext : onOpening status with
    | none => exact hstatus
    | some next =>
      obtain ⟨rfl, -⟩ := onOpening_eq_some hnext
      exact nofun
  | withdraw venue reserve =>
    obtain ⟨hopen, hstatus⟩ := h l hl
    refine ⟨hopen, ?_⟩
    rw [Event.effect_withdraw]
    cases hnext : onWithdraw policy status reserve with
    | none => exact hstatus
    | some next =>
      obtain ⟨-, ⟨-, rfl⟩ | ⟨-, rfl⟩⟩ := onWithdraw_eq_some hnext
      · exact nofun
      · exact hmode
  | selfSwap venue amount succeeded =>
    by_cases hgo : succeeded = true ∧ amount.toNat ≠ 0
    · obtain ⟨rfl, hpos⟩ := hgo
      have hdraw := hl
      rw [Event.effect_selfSwap_ledger policy status ledger venue hpos] at hdraw
      -- opening a ledger tracks the venue, and a draw that leaves one keeps the status
      refine ⟨Ledger.isOpen_draw hpos (toNat_le_maxAmount amount) (fun l hl => (h l hl).1) l hdraw,
        ?_⟩
      cases ledger with
      | none =>
        rw [Event.effect_selfSwap_none policy status venue hpos]
        exact nofun
      | some before =>
        rw [Event.effect_selfSwap_some policy status venue hpos] at hl ⊢
        by_cases hleft : (before.consume amount.toNat).isExhausted = true
        · rw [if_pos hleft] at hl
          cases hl
        · rw [if_neg hleft]
          exact (h before rfl).2
    · rw [Event.effect_selfSwap_skipped _ _ _ _ hgo] at hl ⊢
      exact h l hl

theorem sound_after {policy : Policy} (hmode : policy.withdrawMode ≠ .notTracked) (now : Int64)
    (e : Event) {s : Store} (h : ∀ venue, Sound policy s venue) (venue : Key) :
    Sound policy (e.after policy now s) venue := by
  by_cases hvenue : venue = e.venue
  · subst hvenue
    obtain ⟨status, ledger, hstatus, hledger, hopen⟩ := h e.venue
    obtain ⟨-, hstatus', hledger'⟩ := after_self now e hstatus hledger
    exact ⟨_, _, hstatus', hledger', effect_sound hmode e hopen⟩
  · obtain ⟨hstatus, hledger⟩ := after_of_ne now (s := s) (e := e) hvenue
    unfold Sound
    rw [hstatus, hledger]
    exact h venue

theorem sound_of_reachable {policy : Policy} (hmode : policy.withdrawMode ≠ .notTracked)
    {s : Store} (h : Reachable policy s) (venue : Key) : Sound policy s venue := by
  -- by induction on the run, for all venues at once
  induction h generalizing venue with
  | empty => exact ⟨.notTracked, none, statusOf_empty venue, ledgerOf_empty venue, by simp⟩
  | step now e _ ih => exact sound_after hmode now e ih venue

/-! ## Changes of status -/

/-- The ways in which the status of an event's venue may change, with the
    ledger before and after it. -/
inductive StatusChange (policy : Policy) :
    Event → Status × Option Ledger → Status × Option Ledger → Prop where
  | paused {venue : Key} {status : Status} {ledger : Option Ledger} :
      status.isTracked = true →
      StatusChange policy (.opening venue) (status, ledger) (.paused, ledger)
  | resumed {venue : Key} {reserve : UInt64} {ledger : Option Ledger} :
      reserve ≤ policy.floor →
      StatusChange policy (.withdraw venue reserve) (.paused, ledger) (.both, ledger)
  | takenUp {venue : Key} {reserve : UInt64} {ledger : Option Ledger} :
      reserve ≤ policy.floor →
      StatusChange policy (.withdraw venue reserve) (.notTracked, ledger)
        (policy.withdrawMode, ledger)
  | ledgerOpened {venue : Key} {amount : Word128} {status : Status} :
      amount.toNat ≠ 0 →
      StatusChange policy (.selfSwap venue amount true) (status, none)
        (.both, some (.start amount.toNat policy.splitter))
  | ledgerExhausted {venue : Key} {amount : Word128} {status : Status} {l : Ledger} :
      l.remaining ≤ amount.toNat →
      StatusChange policy (.selfSwap venue amount true) (status, some l) (.notTracked, none)

/-- An event leaves the status as it is or changes it in one of these ways. -/
theorem statusChange_effect (policy : Policy) (e : Event) (status : Status)
    (ledger : Option Ledger) (h : (e.effect policy status ledger).1 ≠ status) :
    StatusChange policy e (status, ledger) (e.effect policy status ledger) := by
  cases e with
  | opening venue =>
    rw [Event.effect_opening] at h ⊢
    cases hnext : onOpening status with
    | none => exact absurd (by rw [hnext]; rfl) h
    | some next =>
      obtain ⟨rfl, htracked⟩ := onOpening_eq_some hnext
      exact .paused htracked
  | withdraw venue reserve =>
    rw [Event.effect_withdraw] at h ⊢
    cases hnext : onWithdraw policy status reserve with
    | none => exact absurd (by rw [hnext]; rfl) h
    | some next =>
      obtain ⟨hfloor, ⟨rfl, rfl⟩ | ⟨rfl, rfl⟩⟩ := onWithdraw_eq_some hnext
      · exact .resumed hfloor
      · exact .takenUp hfloor
  | selfSwap venue amount succeeded =>
    by_cases hgo : succeeded = true ∧ amount.toNat ≠ 0
    · obtain ⟨rfl, hpos⟩ := hgo
      cases ledger with
      | none =>
        rw [Event.effect_selfSwap_none policy status venue hpos]
        exact .ledgerOpened hpos
      | some l =>
        rw [Event.effect_selfSwap_some policy status venue hpos] at h ⊢
        by_cases hleft : (l.consume amount.toNat).isExhausted = true
        · rw [if_pos hleft]
          have hzero : l.remaining - amount.toNat = 0 := of_decide_eq_true hleft
          exact .ledgerExhausted (Nat.le_of_sub_eq_zero hzero)
        · rw [if_neg hleft] at h
          exact absurd rfl h
    · rw [Event.effect_selfSwap_skipped _ _ _ _ hgo] at h
      exact absurd rfl h

/-- Only the end of a ledger lets a venue go, if withdrawals can only track. -/
theorem StatusChange.ledger_closed {policy : Policy} (hmode : policy.withdrawMode ≠ .notTracked)
    {e : Event} {before after : Status × Option Ledger} (h : StatusChange policy e before after)
    (hgone : after.1 = .notTracked) : before.2 ≠ none ∧ after.2 = none := by
  cases h with
  | paused => cases hgone
  | resumed => cases hgone
  | takenUp => exact absurd hgone hmode
  | ledgerOpened => cases hgone
  | ledgerExhausted => exact ⟨nofun, rfl⟩

/-! ## All runs -/

/-- In every store that is reached, each venue can be read; its ledger, if
    there is one, has something left of what it was opened with, and then the
    venue is on record as tracked or paused.  Every further event is handled,
    and a venue whose status it changes is its own, changed in one of the ways
    of `StatusChange`; a venue that was let go had its ledger closed in the
    same step. -/
theorem reachable_lifecycle {policy : Policy}
    (hmode : policy.withdrawMode = .triggerOnly ∨ policy.withdrawMode = .both)
    {s : Store} (h : Reachable policy s) (venue : Key) :
    ∃ status ledger, statusOf s venue = .ok status ∧ ledgerOf s venue = .ok ledger ∧
      (∀ l ∈ ledger, 0 < l.remaining ∧ l.remaining ≤ l.total ∧
        l.stage = l.total / max policy.splitter.toNat 1 ∧ status ≠ .notTracked) ∧
      ∀ (now : Int64) (e : Event), (runOn (e.handle policy now) s).1 = .ok () ∧
        ∃ status' ledger', statusOf (e.after policy now s) venue = .ok status' ∧
          ledgerOf (e.after policy now s) venue = .ok ledger' ∧
          (status' ≠ status →
            venue = e.venue ∧ StatusChange policy e (status, ledger) (status', ledger')) ∧
          (status ≠ .notTracked → status' = .notTracked → ledger ≠ none ∧ ledger' = none) := by
  have hmode' : policy.withdrawMode ≠ .notTracked := by
    rcases hmode with hm | hm <;> rw [hm] <;> exact nofun
  obtain ⟨status, ledger, hstatus, hledger, hopen⟩ := sound_of_reachable hmode' h venue
  refine ⟨status, ledger, hstatus, hledger, ?_, ?_⟩
  · intro l hl
    obtain ⟨hl, hne⟩ := hopen l hl
    exact ⟨hl.remaining_pos, hl.remaining_le, hl.stage_eq, hne⟩
  intro now e
  constructor
  · -- the event's own venue is in order as well
    obtain ⟨_, _, hstatus', hledger', -⟩ := sound_of_reachable hmode' h e.venue
    exact (after_self now e hstatus' hledger').1
  by_cases hvenue : venue = e.venue
  · subst hvenue
    obtain ⟨-, hstatus', hledger'⟩ := after_self now e hstatus hledger
    have hchange := statusChange_effect policy e status ledger
    refine ⟨_, _, hstatus', hledger', fun hne => ⟨rfl, hchange hne⟩, ?_⟩
    intro hne hgone
    exact (hchange (hgone ▸ hne.symm)).ledger_closed hmode' hgone
  · -- another venue keeps its status
    obtain ⟨hsame, hsame'⟩ := after_of_ne now (s := s) (e := e) hvenue
    refine ⟨status, ledger, hsame.trans hstatus, hsame'.trans hledger, ?_, ?_⟩
    · exact fun hne => absurd rfl hne
    · exact fun hne hgone => absurd hgone hne

/-- The store after a swap of 1000 of a venue's pool. -/
def sale : Store :=
  (Event.selfSwap .zero 1000 true).after .standard 0 .empty

/-- The store after the venue of `sale` was opened once more. -/
def pausedSale : Store :=
  (Event.opening .zero).after .standard 1 sale

/-- In that store the sale is on the books, and the venue is paused. -/
theorem pausedSale_lifecycle :
    Policy.standard.withdrawMode = .triggerOnly ∧ Reachable .standard pausedSale ∧
      statusOf pausedSale .zero = .ok .paused ∧
      ledgerOf pausedSale .zero = .ok (some ⟨1000, 1000, 20⟩) ∧ Status.paused ≠ .notTracked := by
  have hsale : statusOf sale .zero = .ok .both ∧
      ledgerOf sale .zero = .ok (some ⟨1000, 1000, 20⟩) :=
    (@after_self .standard 0 .empty (.selfSwap .zero 1000 true) .notTracked none
      (statusOf_empty .zero) (ledgerOf_empty .zero)).2
  have hpaused : statusOf pausedSale .zero = .ok .paused ∧
      ledgerOf pausedSale .zero = .ok (some ⟨1000, 1000, 20⟩) :=
    (@after_self .standard 1 sale (.opening .zero) .both _ hsale.1 hsale.2).2
  have hreach : Reachable .standard pausedSale := .step 1 _ (.step 0 _ .empty)
  obtain ⟨status, ledger, hs, hl, hheld, -⟩ := reachable_lifecycle (.inl rfl) hreach .zero
  obtain rfl : .paused = status := Except.ok.inj (hpaused.1.symm.trans hs)
  obtain rfl : some ⟨1000, 1000, 20⟩ = ledger := Except.ok.inj (hpaused.2.symm.trans hl)
  exact ⟨rfl, hreach, hs, hl, (hheld _ rfl).2.2.2⟩

end PoolWatch.Tracking
