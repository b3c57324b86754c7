import PoolWatch.Proofs.Frame
import PoolWatch.Proofs.Store.Records

/-! # What an operation on trackers does

    A venue is seen through its status and its ledger, as the store tells
    them.  There are three ways to write: a status, a ledger, and the end of
    a ledger.  Each is described by what it does to the two views of every
    venue, and each operation by what it writes; no later proof looks at
    texts or fields. -/

namespace PoolWatch.Tracking

/-! ## Views -/

/-- The status that the store tells of a venue. -/
def statusOf (s : Store) (venue : Key) : Except TrackerError Status :=
  (runOn (status venue) s).1

/-- The ledger that the store tells of a venue. -/
def ledgerOf (s : Store) (venue : Key) : Except TrackerError (Option Ledger) :=
  (runOn (ledger? venue) s).1

theorem runOn_lift {α : Type} (x : Except StoreError α) (s : Store) :
    runOn (lift x) s = (x.mapError .store, s) := by
  cases x <;> rfl

theorem runOn_ofExcept {α : Type} (x : Except TrackerError α) (s : Store) :
    runOn (MonadExcept.ofExcept x : TrackM α) s = (x, s) := by
  cases x <;> rfl

/-- A tracking record, absent or present, and what it is understood as. -/
theorem runOn_tracker (venue : Key) (s : Store) :
    runOn (tracker venue) s =
      (match s.record? TrackerRecord.ofJson? venue.text .tracker with
        | .ok (some record) => record.tracker
        | .ok none => .ok ⟨venue, .notTracked, 0⟩
        | .error e => .error (.store e), s) := by
  unfold tracker
  rw [runOn_bind_ok (runOn_get s)]
  cases hrecord : s.record? TrackerRecord.ofJson? venue.text .tracker with
  | error e => rw [runOn_bind_error (runOn_lift (.error e) s)]
  | ok found =>
    rw [runOn_bind_ok (runOn_lift (.ok found) s)]
    cases found with
    | none => rfl
    | some record => exact runOn_ofExcept record.tracker s

/-- Looking at a status changes nothing. -/
theorem runOn_status (venue : Key) (s : Store) :
    runOn (status venue) s = (statusOf s venue, s) := by
  unfold statusOf status
  rw [runOn_bind, runOn_tracker]
  split <;> rename_i h <;> rw [Prod.mk.injEq] at h <;> obtain ⟨-, rfl⟩ := h <;> rfl

theorem ledgerOf_eq (s : Store) (venue : Key) :
    ledgerOf s venue = (s.record? Ledger.ofJson? venue.text .ledger).mapError .store := by
  unfold ledgerOf ledger?
  rw [runOn_bind_ok (runOn_get s), runOn_lift]

/-- Looking at a ledger changes nothing. -/
theorem runOn_ledger? (venue : Key) (s : Store) :
    runOn (ledger? venue) s = (ledgerOf s venue, s) := by
  rw [ledgerOf_eq, ledger?, runOn_bind_ok (runOn_get s), runOn_lift]

theorem statusOf_of_tracker {s : Store} {venue : Key} {x : Except TrackerError Tracker}
    (h : runOn (tracker venue) s = (x, s)) : statusOf s venue = x.map Tracker.status := by
  unfold statusOf status
  rw [runOn_bind, h]
  cases x <;> rfl

@[simp] theorem statusOf_empty (venue : Key) : statusOf .empty venue = .ok .notTracked :=
  statusOf_of_tracker (runOn_tracker venue .empty)

@[simp] theorem ledgerOf_empty (venue : Key) : ledgerOf .empty venue = .ok none := by
  rw [ledgerOf_eq, Store.record?_empty]
  rfl

/-- The status of a venue depends on its tracking record only. -/
theorem statusOf_congr {s s' : Store} {venue : Key}
    (h : s'.get? venue.text Store.Field.tracker.name = s.get? venue.text Store.Field.tracker.name) :
    statusOf s' venue = statusOf s venue := by
  rw [statusOf_of_tracker (runOn_tracker venue s'), statusOf_of_tracker (runOn_tracker venue s),
    Store.record?_congr h]

/-- The ledger of a venue depends on its ledger record only. -/
theorem ledgerOf_congr {s s' : Store} {venue : Key}
    (h : s'.get? venue.text Store.Field.ledger.name = s.get? venue.text Store.Field.ledger.name) :
    ledgerOf s' venue = ledgerOf s venue := by
  rw [ledgerOf_eq, ledgerOf_eq, Store.record?_congr h]

/-- A ledger that the store tells could be stored again. -/
theorem fits_of_ledgerOf {s : Store} {venue : Key} {l : Ledger}
    (h : ledgerOf s venue = .ok (some l)) : l.Fits := by
  rw [ledgerOf_eq] at h
  unfold Store.record? at h
  cases hcell : s.get? venue.text Store.Field.ledger.name with
  | none =>
    rw [hcell] at h
    cases h
  | some text =>
    rw [hcell] at h
    cases hread : (Json.parse? text).bind Ledger.ofJson? with
    | none =>
      simp only [hread] at h
      cases h
    | some found =>
      simp only [hread] at h
      -- the ledger was read from a text, and reading checks the bounds
      obtain rfl : found = l := Option.some.inj (Except.ok.inj h)
      obtain ⟨j, -, hj⟩ := Option.bind_eq_some_iff.1 hread
      exact Ledger.fits_of_ofJson? hj

/-! ## Writes -/

/-- The records of different venues are kept under different keys. -/
theorem text_ne {venue other : Key} (h : other ≠ venue) : other.text ≠ venue.text :=
  fun htext => h (Key.text_inj.1 htext)

/-- The store with a venue on record under a status. -/
def withStatus (now : Int64) (venue : Key) (status : Status) (s : Store) : Store :=
  s.putRecord venue.text .tracker (TrackerRecord.toJson ⟨venue.text, status.name, now⟩)

/-- The store with a ledger for a venue. -/
def withLedger (venue : Key) (ledger : Ledger) (s : Store) : Store :=
  s.putRecord venue.text .ledger ledger.toJson

/-- The store without the ledger of a venue. -/
def withoutLedger (venue : Key) (s : Store) : Store :=
  s.eraseRecord venue.text .ledger

@[simp] theorem runOn_setStatus (now : Int64) (venue : Key) (status : Status) (s : Store) :
    runOn (setStatus now venue status) s = (.ok (), withStatus now venue status s) := rfl

@[simp] theorem runOn_saveLedger (venue : Key) (ledger : Ledger) (s : Store) :
    runOn (saveLedger venue ledger) s = (.ok (), withLedger venue ledger s) := rfl

@[simp] theorem runOn_dropLedger (venue : Key) (s : Store) :
    runOn (dropLedger venue) s = (.ok (), withoutLedger venue s) := rfl

@[simp] theorem statusOf_withStatus_self (now : Int64) (venue : Key) (status : Status) (s : Store) :
    statusOf (withStatus now venue status s) venue = .ok status := by
  have hread : (withStatus now venue status s).record? TrackerRecord.ofJson? venue.text .tracker =
      .ok (some ⟨venue.text, status.name, now⟩) :=
    s.record?_putRecord_self venue.text .tracker (TrackerRecord.plain_toJson _)
      (TrackerRecord.ofJson?_toJson _)
  rw [statusOf_of_tracker (runOn_tracker venue _), hread]
  simp only [TrackerRecord.tracker_mk]
  rfl

theorem statusOf_withStatus_ne {venue other : Key} (h : other ≠ venue) (now : Int64)
    (status : Status) (s : Store) :
    statusOf (withStatus now venue status s) other = statusOf s other := by
  apply statusOf_congr
  rw [withStatus, Store.get?_putRecord, if_neg fun hc => text_ne h hc.1]

@[simp] theorem ledgerOf_withStatus (now : Int64) (venue other : Key) (status : Status)
    (s : Store) : ledgerOf (withStatus now venue status s) other = ledgerOf s other := by
  apply ledgerOf_congr
  rw [withStatus, Store.get?_putRecord, if_neg (by simp)]

@[simp] theorem statusOf_withLedger (venue other : Key) (ledger : Ledger) (s : Store) :
    statusOf (withLedger venue ledger s) other = statusOf s other := by
  apply statusOf_congr
  rw [withLedger, Store.get?_putRecord, if_neg (by simp)]

theorem ledgerOf_withLedger_self (venue : Key) {ledger : Ledger} (h : ledger.Fits) (s : Store) :
    ledgerOf (withLedger venue ledger s) venue = .ok (some ledger) := by
  have hread : (withLedger venue ledger s).record? Ledger.ofJson? venue.text .ledger =
      .ok (some ledger) :=
    s.record?_putRecord_self venue.text .ledger ledger.plain_toJson (Ledger.ofJson?_toJson h)
  rw [ledgerOf_eq, hread]
  rfl

theorem ledgerOf_withLedger_ne {venue other : Key} (h : other ≠ venue) (ledger : Ledger)
    (s : Store) : ledgerOf (withLedger venue ledger s) other = ledgerOf s other := by
  apply ledgerOf_congr
  rw [withLedger, Store.get?_putRecord, if_neg fun hc => text_ne h hc.1]

@[simp] theorem statusOf_withoutLedger (venue other : Key) (s : Store) :
    statusOf (withoutLedger venue s) other = statusOf s other := by
  apply statusOf_congr
  rw [withoutLedger, Store.get?_eraseRecord, if_neg (by simp)]

@[simp] theorem ledgerOf_withoutLedger_self (venue : Key) (s : Store) :
    ledgerOf (withoutLedger venue s) venue = .ok none := by
  rw [ledgerOf_eq, withoutLedger, Store.record?_eraseRecord_self]
  rfl

theorem ledgerOf_withoutLedger_ne {venue other : Key} (h : other ≠ venue) (s : Store) :
    ledgerOf (withoutLedger venue s) other = ledgerOf s other := by
  apply ledgerOf_congr
  rw [withoutLedger, Store.get?_eraseRecord, if_neg fun hc => text_ne h hc.1]

/-! ## Drawing -/

namespace Ledger

/-- What drawing an amount makes of a ledger: it opens one, or takes from the
    one that is open and drops it when nothing is left. -/
def draw (splitter : UInt64) (ledger : Option Ledger) (amount : Nat) : Option Ledger :=
  match ledger with
  | none => some (start amount splitter)
  | some l => if (l.consume amount).isExhausted then none else some (l.consume amount)

theorem draw_none (splitter : UInt64) (amount : Nat) :
    draw splitter none amount = some (start amount splitter) := rfl

theorem draw_some (splitter : UInt64) (l : Ledger) (amount : Nat) :
    draw splitter (some l) amount =
      if (l.consume amount).isExhausted then none else some (l.consume amount) := rfl

theorem fits_start {splitter : UInt64} {total : Nat} (h : total ≤ maxAmount) :
    (start total splitter).Fits :=
  ⟨h, h, Nat.le_trans (Nat.div_le_self _ _) h⟩

theorem Fits.consume {l : Ledger} (h : l.Fits) (amount : Nat) : (l.consume amount).Fits :=
  ⟨h.total, Nat.le_trans (Nat.sub_le _ _) h.remaining, h.stage⟩

end Ledger

/-! ## Operations -/

/-- The store after a status may have moved on. -/
def withNext (now : Int64) (venue : Key) (next : Option Status) (s : Store) : Store :=
  match next with
  | some status => withStatus now venue status s
  | none => s

theorem runOn_handleOpening (now : Int64) {venue : Key} {s : Store} {current : Status}
    (h : statusOf s venue = .ok current) :
    runOn (handleOpening now venue) s =
      (.ok (onOpening current), withNext now venue (onOpening current) s) := by
  have hread := runOn_status venue s
  rw [h] at hread
  unfold handleOpening
  rw [runOn_bind_ok hread]
  cases onOpening current <;> rfl

theorem runOn_handleWithdraw (policy : Policy) (now : Int64) {venue : Key} (reserve : UInt64)
    {s : Store} {current : Status} (h : statusOf s venue = .ok current) :
    runOn (handleWithdraw policy now venue reserve) s =
      (.ok (onWithdraw policy current reserve),
        withNext now venue (onWithdraw policy current reserve) s) := by
  have hread := runOn_status venue s
  rw [h] at hread
  unfold handleWithdraw
  rw [runOn_bind_ok hread]
  cases onWithdraw policy current reserve <;> rfl

theorem runOn_handleOpening_error (now : Int64) {venue : Key} {s : Store} {e : TrackerError}
    (h : statusOf s venue = .error e) : runOn (handleOpening now venue) s = (.error e, s) := by
  have hread := runOn_status venue s
  rw [h] at hread
  exact runOn_bind_error hread _

theorem runOn_handleWithdraw_error (policy : Policy) (now : Int64) {venue : Key}
    (reserve : UInt64) {s : Store} {e : TrackerError} (h : statusOf s venue = .error e) :
    runOn (handleWithdraw policy now venue reserve) s = (.error e, s) := by
  have hread := runOn_status venue s
  rw [h] at hread
  exact runOn_bind_error hread _

section SelfSwap

variable (policy : Policy) (now : Int64) {venue : Key} {s : Store}

/-- A swap that failed or moved nothing is passed over. -/
theorem runOn_handleSelfSwap_skipped {traded : Nat} {succeeded : Bool}
    (h : ¬ (succeeded = true ∧ traded ≠ 0)) :
    runOn (handleSelfSwap policy now venue traded succeeded) s = (.ok .skipped, s) := by
  have hskip : (!succeeded || traded == 0) = true := by
    by_cases hs : succeeded = true
    · have htraded : traded = 0 := by
        by_contra hne
        exact h ⟨hs, hne⟩
      simp [htraded]
    · simp [hs]
  unfold handleSelfSwap
  rw [if_pos hskip]
  rfl

theorem runOn_handleSelfSwap_of_pos {traded : Nat} (hpos : traded ≠ 0) :
    runOn (handleSelfSwap policy now venue traded true) s =
      match ledgerOf s venue with
      | .error e => (.error e, s)
      | .ok none =>
        (.ok (.opened (.start traded policy.splitter)),
          withStatus now venue .both (withLedger venue (.start traded policy.splitter) s))
      | .ok (some ledger) =>
        if (ledger.consume traded).isExhausted then
          (.ok .exhausted, withStatus now venue .notTracked (withoutLedger venue s))
        else
          (.ok (.decremented (ledger.consume traded)),
            withLedger venue (ledger.consume traded) s) := by
  -- the ledger is looked at once, and what was found decides
  have hread := runOn_ledger? venue s
  have hgo : ¬ (!true || traded == 0) = true := by simpa using hpos
  unfold handleSelfSwap
  rw [if_neg hgo]
  cases hledger : ledgerOf s venue with
  | error e =>
    rw [hledger] at hread
    rw [runOn_bind_error hread]
  | ok found =>
    rw [hledger] at hread
    rw [runOn_bind_ok hread]
    cases found with
    | none => rfl
    | some ledger =>
      dsimp only
      split <;> rfl

/-- An own swap shows in no other venue. -/
theorem handleSelfSwap_ne {other : Key} (h : other ≠ venue) (traded : Nat) (succeeded : Bool) :
    statusOf (runOn (handleSelfSwap policy now venue traded succeeded) s).2 other =
        statusOf s other ∧
      ledgerOf (runOn (handleSelfSwap policy now venue traded succeeded) s).2 other =
        ledgerOf s other := by
  by_cases hgo : succeeded = true ∧ traded ≠ 0
  · obtain ⟨rfl, hpos⟩ := hgo
    rw [runOn_handleSelfSwap_of_pos policy now hpos]
    cases ledgerOf s venue with
    | error e => exact ⟨rfl, rfl⟩
    | ok found =>
      cases found with
      | none =>
        dsimp only
        rw [statusOf_withStatus_ne h, ledgerOf_withStatus, statusOf_withLedger,
          ledgerOf_withLedger_ne h]
        exact ⟨rfl, rfl⟩
      | some l =>
        dsimp only
        split
        · dsimp only
          rw [statusOf_withStatus_ne h, ledgerOf_withStatus, statusOf_withoutLedger,
            ledgerOf_withoutLedger_ne h]
          exact ⟨rfl, rfl⟩
        · dsimp only
          rw [statusOf_withLedger, ledgerOf_withLedger_ne h]
          exact ⟨rfl, rfl⟩
  · rw [runOn_handleSelfSwap_skipped policy now hgo]
    exact ⟨rfl, rfl⟩

/-- An own swap that succeeded and moved something is drawn on the ledger. -/
theorem handleSelfSwap_draws {traded : Nat} {succeeded : Bool} (hle : traded ≤ Ledger.maxAmount)
    {ledger : Option Ledger} (hledger : ledgerOf s venue = .ok ledger) :
    ∃ outcome, (runOn (handleSelfSwap policy now venue traded succeeded) s).1 = .ok outcome ∧
      ledgerOf (runOn (handleSelfSwap policy now venue traded succeeded) s).2 venue =
        .ok (if succeeded = true ∧ traded ≠ 0 then Ledger.draw policy.splitter ledger traded
          else ledger) := by
  by_cases hgo : succeeded = true ∧ traded ≠ 0
  · rw [if_pos hgo]
    obtain ⟨rfl, hpos⟩ := hgo
    rw [runOn_handleSelfSwap_of_pos policy now hpos, hledger]
    cases ledger with
    | none =>
      refine ⟨_, rfl, ?_⟩
      rw [ledgerOf_withStatus, ledgerOf_withLedger_self venue (Ledger.fits_start hle)]
      rfl
    | some l =>
      -- less is left than there was, so what is left can be stored
      have hfits := (fits_of_ledgerOf hledger).consume traded
      dsimp only
      rw [Ledger.draw_some]
      by_cases hleft : (l.consume traded).isExhausted = true
      · rw [if_pos hleft, if_pos hleft]
        refine ⟨_, rfl, ?_⟩
        rw [ledgerOf_withStatus, ledgerOf_withoutLedger_self]
      · rw [if_neg hleft, if_neg hleft]
        exact ⟨_, rfl, ledgerOf_withLedger_self venue hfits s⟩
  · rw [runOn_handleSelfSwap_skipped policy now hgo, if_neg hgo]
    exact ⟨_, rfl, hledger⟩

end SelfSwap

/-! ## Records of other kinds -/

/-- All records stay but for statuses and ledgers. -/
def keepsOthers : Frame Store where
  rel s s' := ∀ key field, field ≠ Store.Field.tracker → field ≠ Store.Field.ledger →
    s'.get? key field.name = s.get? key field.name
  refl _ := fun _ _ _ _ => rfl
  trans h h' := fun key field htracker hledger =>
    (h' key field htracker hledger).trans (h key field htracker hledger)

theorem allows_status (venue : Key) : keepsOthers.Allows (status venue).run := by
  rw [Frame.allows_run]
  intro s
  rw [runOn_status]
  exact keepsOthers.refl s

theorem allows_ledger? (venue : Key) : keepsOthers.Allows (ledger? venue).run := by
  rw [Frame.allows_run]
  intro s
  rw [runOn_ledger?]
  exact keepsOthers.refl s

theorem allows_setStatus (now : Int64) (venue : Key) (status : Status) :
    keepsOthers.Allows (setStatus now venue status).run := by
  intro s key field htracker _
  show (withStatus now venue status s).get? key field.name = _
  rw [withStatus, Store.get?_putRecord, if_neg fun h => htracker h.2]

theorem allows_saveLedger (venue : Key) (ledger : Ledger) :
    keepsOthers.Allows (saveLedger venue ledger).run := by
  intro s key field _ hledger
  show (withLedger venue ledger s).get? key field.name = _
  rw [withLedger, Store.get?_putRecord, if_neg fun h => hledger h.2]

theorem allows_dropLedger (venue : Key) : keepsOthers.Allows (dropLedger venue).run := by
  intro s key field _ hledger
  show (withoutLedger venue s).get? key field.name = _
  rw [withoutLedger, Store.get?_eraseRecord, if_neg fun h => hledger h.2]

/-- A status that may move on is all that is written. -/
theorem allows_moveOn (now : Int64) (venue : Key) (next : Option Status) :
    keepsOthers.Allows (do
      if let some next := next then setStatus now venue next
      pure next : TrackM (Option Status)).run := by
  cases next with
  | none => exact Frame.allows_run_pure none
  | some next =>
    exact Frame.allows_run_bind (allows_setStatus now venue next) fun _ =>
      Frame.allows_run_pure (some next)

theorem allows_handleOpening (now : Int64) (venue : Key) :
    keepsOthers.Allows (handleOpening now venue).run :=
  Frame.allows_run_bind (allows_status venue) fun current =>
    allows_moveOn now venue (onOpening current)

theorem allows_handleWithdraw (policy : Policy) (now : Int64) (venue : Key) (reserve : UInt64) :
    keepsOthers.Allows (handleWithdraw policy now venue reserve).run :=
  Frame.allows_run_bind (allows_status venue) fun current =>
    allows_moveOn now venue (onWithdraw policy current reserve)

theorem allows_handleSelfSwap (policy : Policy) (now : Int64) (venue : Key) (traded : Nat)
    (succeeded : Bool) :
    keepsOthers.Allows (handleSelfSwap policy now venue traded succeeded).run := by
  unfold handleSelfSwap
  split
  · exact Frame.allows_run_pure _
  refine Frame.allows_run_bind (allows_ledger? venue) fun ledger => ?_
  cases ledger with
  | none =>
    refine Frame.allows_run_bind (allows_saveLedger venue _) fun _ => ?_
    exact Frame.allows_run_bind (allows_setStatus now venue .both) fun _ => Frame.allows_run_pure _
  | some l =>
    dsimp only
    split
    · refine Frame.allows_run_bind (allows_dropLedger venue) fun _ => ?_
      exact Frame.allows_run_bind (allows_setStatus now venue .notTracked) fun _ =>
        Frame.allows_run_pure _
    · exact Frame.allows_run_bind (allows_saveLedger venue _) fun _ => Frame.allows_run_pure _

end PoolWatch.Tracking
