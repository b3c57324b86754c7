import PoolWatch.Proofs.Tandem
import PoolWatch.Proofs.Tracking.Operations

/-! # Trackers at different times

    Every tracking record carries the time at which it was written, and no
    operation looks at it.  So two stores whose ledgers are the same, and
    whose tracking records differ in their times at most, cannot be told
    apart: every operation answers the same in both, whatever the time is in
    each, and leaves two such stores again. -/

namespace PoolWatch

/-- What becomes of a pair, when the same frame holds for each of the two. -/
def Frame.both {σ : Type} (F : Frame σ) : Frame (σ × σ) where
  rel p q := F.rel p.1 q.1 ∧ F.rel p.2 q.2
  refl _ := ⟨F.refl _, F.refl _⟩
  trans h h' := ⟨F.trans h.1 h'.1, F.trans h.2 h'.2⟩

namespace Tracking

/-! ## Records and their times -/

/-- The text of a tracking record. -/
def recordText (venue : Key) (status : Status) (now : Int64) : String :=
  (TrackerRecord.toJson ⟨venue.text, status.name, now⟩).compact

/-- Two texts of trackers that are the same, or tell of the same venue and
    status at different times. -/
inductive SameButTime : Option String → Option String → Prop where
  | same (text : Option String) : SameButTime text text
  | dated (venue : Key) (status : Status) (now now' : Int64) :
      SameButTime (some (recordText venue status now)) (some (recordText venue status now'))

/-- Two stores with the same ledgers, and with trackers that differ in their
    times at most. -/
structure SameTrackers (s s' : Store) : Prop where
  trackers : ∀ name,
    SameButTime (s.get? name Store.Field.tracker.name) (s'.get? name Store.Field.tracker.name)
  ledgers : ∀ name,
    s.get? name Store.Field.ledger.name = s'.get? name Store.Field.ledger.name

theorem SameTrackers.refl (s : Store) : SameTrackers s s :=
  ⟨fun _ => .same _, fun _ => rfl⟩

/-- A record of another time tells the same status. -/
theorem statusOf_of_text {s : Store} {venue named : Key} {status : Status} {now : Int64}
    (h : s.get? venue.text Store.Field.tracker.name = some (recordText named status now)) :
    statusOf s venue = .ok status := by
  have hrecord : s.record? TrackerRecord.ofJson? venue.text .tracker =
      .ok (some ⟨named.text, status.name, now⟩) :=
    Store.record?_of_get? h (TrackerRecord.plain_toJson _) (TrackerRecord.ofJson?_toJson _)
  rw [statusOf_of_tracker (runOn_tracker venue s), hrecord]
  simp only [TrackerRecord.tracker_mk]
  rfl

section Same

variable {s s' : Store} (h : SameTrackers s s')
include h

theorem SameTrackers.statusOf_eq (venue : Key) : statusOf s venue = statusOf s' venue := by
  have hsame := h.trackers venue.text
  generalize hleft : s.get? venue.text Store.Field.tracker.name = left at hsame
  generalize hright : s'.get? venue.text Store.Field.tracker.name = right at hsame
  cases hsame with
  | same text => exact statusOf_congr (hleft.trans hright.symm)
  | dated named status now now' => rw [statusOf_of_text hleft, statusOf_of_text hright]

theorem SameTrackers.ledgerOf_eq (venue : Key) : ledgerOf s venue = ledgerOf s' venue :=
  ledgerOf_congr (h.ledgers venue.text)

theorem SameTrackers.withStatus (now now' : Int64) (venue : Key) (status : Status) :
    SameTrackers (withStatus now venue status s) (withStatus now' venue status s') where
  trackers name := by
    unfold Tracking.withStatus
    rw [Store.get?_putRecord, Store.get?_putRecord]
    by_cases hname : name = venue.text
    · rw [if_pos ⟨hname, rfl⟩, if_pos ⟨hname, rfl⟩]
      exact .dated venue status now now'
    · rw [if_neg fun hc => hname hc.1, if_neg fun hc => hname hc.1]
      exact h.trackers name
  ledgers name := by
    unfold Tracking.withStatus
    rw [Store.get?_putRecord, Store.get?_putRecord, if_neg nofun, if_neg nofun]
    exact h.ledgers name

theorem SameTrackers.withLedger (venue : Key) (ledger : Ledger) :
    SameTrackers (withLedger venue ledger s) (withLedger venue ledger s') where
  trackers name := by
    unfold Tracking.withLedger
    rw [Store.get?_putRecord, Store.get?_putRecord, if_neg nofun, if_neg nofun]
    exact h.trackers name
  ledgers name := by
    unfold Tracking.withLedger
    rw [Store.get?_putRecord, Store.get?_putRecord, h.ledgers name]

theorem SameTrackers.withoutLedger (venue : Key) :
    SameTrackers (withoutLedger venue s) (withoutLedger venue s') where
  trackers name := by
    unfold Tracking.withoutLedger
    rw [Store.get?_eraseRecord, Store.get?_eraseRecord, if_neg nofun, if_neg nofun]
    exact h.trackers name
  ledgers name := by
    unfold Tracking.withoutLedger
    rw [Store.get?_eraseRecord, Store.get?_eraseRecord, h.ledgers name]

/-- What neither store changes of trackers and ledgers goes on to be the same. -/
theorem SameTrackers.congr {t t' : Store}
    (hkept : ∀ name field, field = Store.Field.tracker ∨ field = Store.Field.ledger →
      t.get? name field.name = s.get? name field.name ∧
        t'.get? name field.name = s'.get? name field.name) : SameTrackers t t' where
  trackers name := by
    obtain ⟨hleft, hright⟩ := hkept name .tracker (.inl rfl)
    rw [hleft, hright]
    exact h.trackers name
  ledgers name := by
    obtain ⟨hleft, hright⟩ := hkept name .ledger (.inr rfl)
    rw [hleft, hright]
    exact h.ledgers name

end Same

/-! ## Operations -/

/-- Stores that differ in the times of trackers at most; all that is not
    about trackers stays in both. -/
def undated : Tandem Store where
  alike := SameTrackers
  steps := keepsOthers.both

theorem permits_status (venue : Key) : undated.Permits Eq (status venue) (status venue) := by
  intro s s' h
  rw [runOn_status, runOn_status]
  exact ⟨agree_eq_iff.2 (h.statusOf_eq venue), h, undated.steps.refl _⟩

theorem permits_ledger? (venue : Key) : undated.Permits Eq (ledger? venue) (ledger? venue) := by
  intro s s' h
  rw [runOn_ledger?, runOn_ledger?]
  exact ⟨agree_eq_iff.2 (h.ledgerOf_eq venue), h, undated.steps.refl _⟩

theorem permits_setStatus (now now' : Int64) (venue : Key) (status : Status) :
    undated.Permits Eq (setStatus now venue status) (setStatus now' venue status) :=
  fun s s' h => ⟨.ok rfl, h.withStatus now now' venue status,
    allows_setStatus now venue status s, allows_setStatus now' venue status s'⟩

theorem permits_saveLedger (venue : Key) (ledger : Ledger) :
    undated.Permits Eq (saveLedger venue ledger) (saveLedger venue ledger) :=
  fun s s' h => ⟨.ok rfl, h.withLedger venue ledger,
    allows_saveLedger venue ledger s, allows_saveLedger venue ledger s'⟩

theorem permits_dropLedger (venue : Key) :
    undated.Permits Eq (dropLedger venue) (dropLedger venue) :=
  fun s s' h => ⟨.ok rfl, h.withoutLedger venue, allows_dropLedger venue s,
    allows_dropLedger venue s'⟩

/-- A status that may move on does so in both. -/
theorem permits_moveOn (now now' : Int64) (venue : Key) (next : Option Status) :
    undated.Permits Eq
      (do
        if let some next := next then setStatus now venue next
        pure next : TrackM (Option Status))
      (do
        if let some next := next then setStatus now' venue next
        pure next : TrackM (Option Status)) := by
  cases next with
  | none => exact Tandem.permits_pure rfl
  | some next =>
    refine Tandem.permits_bind (permits_setStatus now now' venue next) fun _ _ _ => ?_
    exact Tandem.permits_pure rfl

theorem permits_handleOpening (now now' : Int64) (venue : Key) :
    undated.Permits Eq (handleOpening now venue) (handleOpening now' venue) := by
  refine Tandem.permits_bind (permits_status venue) ?_
  rintro current _ rfl
  exact permits_moveOn now now' venue (onOpening current)

theorem permits_handleWithdraw (policy : Policy) (now now' : Int64) (venue : Key)
    (reserve : UInt64) :
    undated.Permits Eq (handleWithdraw policy now venue reserve)
      (handleWithdraw policy now' venue reserve) := by
  refine Tandem.permits_bind (permits_status venue) ?_
  rintro current _ rfl
  exact permits_moveOn now now' venue (onWithdraw policy current reserve)

theorem permits_handleSelfSwap (policy : Policy) (now now' : Int64) (venue : Key) (traded : Nat)
    (succeeded : Bool) :
    undated.Permits Eq (handleSelfSwap policy now venue traded succeeded)
      (handleSelfSwap policy now' venue traded succeeded) := by
  unfold handleSelfSwap
  split
  · exact Tandem.permits_pure rfl
  refine Tandem.permits_bind (permits_ledger? venue) ?_
  rintro ledger _ rfl
  -- both open a ledger, both close theirs, or both draw on it
  cases ledger with
  | none =>
    refine Tandem.permits_bind (permits_saveLedger venue _) fun _ _ _ => ?_
    refine Tandem.permits_bind (permits_setStatus now now' venue .both) fun _ _ _ => ?_
    exact Tandem.permits_pure rfl
  | some l =>
    dsimp only
    split
    · refine Tandem.permits_bind (permits_dropLedger venue) fun _ _ _ => ?_
      refine Tandem.permits_bind (permits_setStatus now now' venue .notTracked) fun _ _ _ => ?_
      exact Tandem.permits_pure rfl
    · refine Tandem.permits_bind (permits_saveLedger venue _) fun _ _ _ => ?_
      exact Tandem.permits_pure rfl

end Tracking

end PoolWatch
