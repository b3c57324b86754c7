import PoolWatch.Proofs.Tracking.Operations

/-! # All or nothing

    Openings, withdrawals, own swaps and the two ways to set a status are the
    operations that may write to the records of a venue.  Each looks at what
    it needs before it writes, so one that is refused has written nothing.
    What it writes is the tracking record and the ledger of its venue, and
    every other text stays, be it a record or not. -/

namespace PoolWatch.Tracking

/-! ## Operations -/

/-- An operation on the records of a venue. -/
inductive Operation where
  | opening (venue : Key)
  | withdraw (venue : Key) (reserve : UInt64)
  | selfSwap (venue : Key) (amount : Word128) (succeeded : Bool)
  | setStatus (venue : Key) (status : Status)
  | setStatusNamed (venue : Key) (name : String)

/-- What an operation answers. -/
inductive Answer where
  | moved (next : Option Status)
  | drawn (outcome : LedgerOutcome)
  | written

/-- Whether an answer reports that nothing was done. -/
def Answer.isIdle : Answer → Bool
  | moved none => true
  | drawn .skipped => true
  | _ => false

namespace Operation

/-- The venue that an operation is about. -/
def venue : Operation → Key
  | opening venue => venue
  | withdraw venue _ => venue
  | selfSwap venue _ _ => venue
  | setStatus venue _ => venue
  | setStatusNamed venue _ => venue

/-- Carries an operation out. -/
def run (policy : Policy) (now : Int64) : Operation → TrackM Answer
  | opening venue => do return .moved (← handleOpening now venue)
  | withdraw venue reserve => do return .moved (← handleWithdraw policy now venue reserve)
  | selfSwap venue amount succeeded => do
    return .drawn (← handleSelfSwap policy now venue amount.toNat succeeded)
  | setStatus venue status => do
    Tracking.setStatus now venue status
    return .written
  | setStatusNamed venue name => do
    Tracking.setStatusNamed now venue name
    return .written

/-- The status that an operation put on record, by its answer. -/
def put (op : Operation) : Except TrackerError Answer → Option Status
  | .error _ => none
  | .ok (.moved next) => next
  | .ok (.drawn (.opened _)) => some .both
  | .ok (.drawn .exhausted) => some .notTracked
  | .ok (.drawn _) => none
  | .ok .written =>
    match op with
    | setStatus _ status => some status
    | setStatusNamed _ name => Status.ofName? name
    | _ => none

end Operation

/-! ## What an operation writes -/

/-- The ways in which an operation about a venue can end: its answer, the
    status that it put on record, and the store that it leaves. -/
inductive Ends (now : Int64) (venue : Key) (s : Store) :
    Except TrackerError Answer → Option Status → Store → Prop where
  | refused (e : TrackerError) : Ends now venue s (.error e) none s
  | stayed : Ends now venue s (.ok (.moved none)) none s
  | moved (status : Status) :
      Ends now venue s (.ok (.moved (some status))) (some status) (withStatus now venue status s)
  | written (status : Status) :
      Ends now venue s (.ok .written) (some status) (withStatus now venue status s)
  | skipped : Ends now venue s (.ok (.drawn .skipped)) none s
  | opened (l : Ledger) :
      Ends now venue s (.ok (.drawn (.opened l))) (some .both)
        (withStatus now venue .both (withLedger venue l s))
  | decremented (l : Ledger) :
      Ends now venue s (.ok (.drawn (.decremented l))) none (withLedger venue l s)
  | exhausted :
      Ends now venue s (.ok (.drawn .exhausted)) (some .notTracked)
        (withStatus now venue .notTracked (withoutLedger venue s))

section Ends

variable {policy : Policy} {now : Int64} {s s' : Store} {answer : Except TrackerError Answer}

/-- A status that may move on does so, and that is all. -/
theorem ends_withNext (op : Operation) (now : Int64) (venue : Key) (s : Store)
    (next : Option Status) :
    Ends now venue s (.ok (.moved next)) (op.put (.ok (.moved next)))
      (withNext now venue next s) := by
  cases next with
  | none => exact .stayed
  | some status => exact .moved status

theorem ends_selfSwap {venue : Key} {amount : Word128} {succeeded : Bool}
    (h : runOn ((Operation.selfSwap venue amount succeeded).run policy now) s = (answer, s')) :
    Ends now venue s answer ((Operation.selfSwap venue amount succeeded).put answer) s' := by
  simp only [Operation.run, runOn_bind] at h
  by_cases hgo : succeeded = true ∧ amount.toNat ≠ 0
  · obtain ⟨rfl, hpos⟩ := hgo
    rw [runOn_handleSelfSwap_of_pos policy now hpos] at h
    cases hledger : ledgerOf s venue with
    | error e =>
      rw [hledger] at h
      cases h
      exact .refused e
    | ok found =>
      rw [hledger] at h
      cases found with
      | none =>
        cases h
        exact .opened _
      | some l =>
        by_cases hleft : (l.consume amount.toNat).isExhausted = true
        · simp only [if_pos hleft] at h
          cases h
          exact .exhausted
        · simp only [if_neg hleft] at h
          cases h
          exact .decremented _
  · rw [runOn_handleSelfSwap_skipped policy now hgo] at h
    cases h
    exact .skipped

theorem ends_setStatusNamed {venue : Key} {name : String}
    (h : runOn ((Operation.setStatusNamed venue name).run policy now) s = (answer, s')) :
    Ends now venue s answer ((Operation.setStatusNamed venue name).put answer) s' := by
  simp only [Operation.run, Tracking.setStatusNamed] at h
  cases hname : Status.ofName? name with
  | none =>
    rw [hname] at h
    cases h
    exact .refused _
  | some status =>
    rw [hname] at h
    cases h
    show Ends now venue s (.ok .written) (Status.ofName? name) _
    rw [hname]
    exact .written status

/-- Every operation ends in one of these ways. -/
theorem Operation.ends {op : Operation} (h : runOn (op.run policy now) s = (answer, s')) :
    Ends now op.venue s answer (op.put answer) s' := by
  cases op with
  | opening venue =>
    simp only [Operation.run, runOn_bind] at h
    cases hstatus : statusOf s venue with
    | error e =>
      rw [runOn_handleOpening_error now hstatus] at h
      cases h
      exact .refused e
    | ok current =>
      rw [runOn_handleOpening now hstatus] at h
      cases h
      exact ends_withNext _ now venue s (onOpening current)
  | withdraw venue reserve =>
    simp only [Operation.run, runOn_bind] at h
    cases hstatus : statusOf s venue with
    | error e =>
      rw [runOn_handleWithdraw_error policy now reserve hstatus] at h
      cases h
      exact .refused e
    | ok current =>
      rw [runOn_handleWithdraw policy now reserve hstatus] at h
      cases h
      exact ends_withNext _ now venue s (onWithdraw policy current reserve)
  | selfSwap venue amount succeeded => exact ends_selfSwap h
  | setStatus venue status =>
    cases h
    exact .written status
  | setStatusNamed venue name => exact ends_setStatusNamed h

end Ends

/-! ## What stays -/

/-- Every text stays but the tracking record and the ledger of a venue. -/
def onlyRecordsOf (venue : Key) : Frame Store where
  rel s s' := ∀ key field,
    ¬ (key = venue.text ∧ (field = Store.Field.tracker.name ∨ field = Store.Field.ledger.name)) →
      s'.get? key field = s.get? key field
  refl _ := fun _ _ _ => rfl
  trans h h' := fun key field hother => (h' key field hother).trans (h key field hother)

section Stays

variable {now : Int64} {venue : Key} {s s' : Store} {answer : Except TrackerError Answer}
  {next : Option Status}

theorem onlyRecordsOf_withStatus (now : Int64) (venue : Key) (status : Status) (s : Store) :
    (onlyRecordsOf venue).rel s (withStatus now venue status s) := by
  intro key field hother
  exact (Store.get?_set ..).trans (if_neg fun h => hother ⟨h.1, .inl h.2⟩)

theorem onlyRecordsOf_withLedger (venue : Key) (l : Ledger) (s : Store) :
    (onlyRecordsOf venue).rel s (withLedger venue l s) := by
  intro key field hother
  exact (Store.get?_set ..).trans (if_neg fun h => hother ⟨h.1, .inr h.2⟩)

theorem onlyRecordsOf_withoutLedger (venue : Key) (s : Store) :
    (onlyRecordsOf venue).rel s (withoutLedger venue s) := by
  intro key field hother
  exact (Store.get?_erase ..).trans (if_neg fun h => hother ⟨h.1, .inr h.2⟩)

/-- An operation writes the records of its venue only. -/
theorem Ends.rel (h : Ends now venue s answer next s') : (onlyRecordsOf venue).rel s s' := by
  have hstatus := fun status s => onlyRecordsOf_withStatus now venue status s
  cases h with
  | refused | stayed | skipped => exact (onlyRecordsOf venue).refl s
  | moved status | written status => exact hstatus status s
  | opened l => exact (onlyRecordsOf venue).trans (onlyRecordsOf_withLedger venue l s) (hstatus _ _)
  | decremented l => exact onlyRecordsOf_withLedger venue l s
  | exhausted =>
    exact (onlyRecordsOf venue).trans (onlyRecordsOf_withoutLedger venue s) (hstatus _ _)

theorem Ends.store_of_error {e : TrackerError} (h : Ends now venue s (.error e) next s') :
    s' = s := by
  cases h
  rfl

theorem Ends.store_of_idle {a : Answer} (h : Ends now venue s (.ok a) next s')
    (hidle : a.isIdle = true) : s' = s := by
  cases h with
  | stayed | skipped => rfl
  | moved | written | opened | decremented | exhausted => cases hidle

end Stays

/-! ## All or nothing -/

/-- Whatever a store holds, damaged records included: an operation that is
    refused leaves the store as it is, and so does one that reports that
    nothing was done.  One that is carried out leaves every text but the
    tracking record and the ledger of its venue, so the keys of its pool stay
    as they are, and everything of other venues. -/
theorem operation_atomic (policy : Policy) (now : Int64) (op : Operation) (s : Store) :
    (∀ e s', runOn (op.run policy now) s = (.error e, s') → s' = s) ∧
    (∀ answer s', runOn (op.run policy now) s = (.ok answer, s') →
      (∀ key field, ¬ (key = op.venue.text ∧
          (field = Store.Field.tracker.name ∨ field = Store.Field.ledger.name)) →
        s'.get? key field = s.get? key field) ∧
      s'.get? op.venue.text Store.Field.poolKeys.name =
        s.get? op.venue.text Store.Field.poolKeys.name ∧
      (∀ other : Key, other ≠ op.venue → ∀ field,
        s'.get? other.text field = s.get? other.text field) ∧
      (answer.isIdle = true → s' = s)) := by
  constructor
  · intro e s' hrun
    exact (Operation.ends hrun).store_of_error
  · intro answer s' hrun
    have hends := Operation.ends hrun
    have hrel := hends.rel
    refine ⟨hrel, hrel _ _ fun h => ?_, fun other hother field => hrel _ _ fun h => ?_,
      hends.store_of_idle⟩
    · exact absurd h.2 (by decide)
    · exact text_ne hother h.1

end PoolWatch.Tracking
