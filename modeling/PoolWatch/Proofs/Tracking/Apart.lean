import PoolWatch.Proofs.Tracking.Operations

/-! # Venues apart

    An operation on the trackers is about one venue.  What it answers, and
    what the store tells of the venue afterwards, depends on what the store
    told of the venue before and on nothing else, not even on the time; and
    of every other venue the store goes on to tell the same. -/

namespace PoolWatch.Tracking

/-- What a store tells of a venue: its status and its ledger. -/
def told (s : Store) (venue : Key) :
    Except TrackerError Status × Except TrackerError (Option Ledger) :=
  (statusOf s venue, ledgerOf s venue)

theorem told_eq_iff {s s' : Store} {venue venue' : Key} : told s venue = told s' venue' ↔
    statusOf s venue = statusOf s' venue' ∧ ledgerOf s venue = ledgerOf s' venue' :=
  Prod.mk_inj

/-- An operation about one venue, which may put the time on record. -/
structure IsAbout {α : Type} (venue : Key) (op : Int64 → TrackM α) : Prop where
  keeps : ∀ now, keepsOthers.Allows (op now).run
  apart : ∀ now s other, other ≠ venue → told (runOn (op now) s).2 other = told s other
  same : ∀ now now' s s', told s venue = told s' venue →
    (runOn (op now) s).1 = (runOn (op now') s').1 ∧
      told (runOn (op now) s).2 venue = told (runOn (op now') s').2 venue

section Next

variable {venue : Key} {s s' : Store}

theorem told_withNext_ne {other : Key} (h : other ≠ venue) (now : Int64) (next : Option Status)
    (s : Store) : told (withNext now venue next s) other = told s other := by
  cases next with
  | none => rfl
  | some status =>
    exact told_eq_iff.2 ⟨statusOf_withStatus_ne h now status s, ledgerOf_withStatus ..⟩

/-- What is told of a venue that was moved on does not depend on the time. -/
theorem told_withNext_self (now now' : Int64) (next : Option Status)
    (h : told s venue = told s' venue) :
    told (withNext now venue next s) venue = told (withNext now' venue next s') venue := by
  cases next with
  | none => exact h
  | some status =>
    unfold withNext told
    rw [statusOf_withStatus_self, statusOf_withStatus_self, ledgerOf_withStatus,
      ledgerOf_withStatus, (told_eq_iff.1 h).2]

end Next

section Operations

variable (policy : Policy) (venue : Key)

theorem isAbout_status : IsAbout venue fun _ => status venue where
  keeps _ := allows_status venue
  apart _ s _ _ := by rw [runOn_status]
  same _ _ s s' h := by
    rw [runOn_status, runOn_status]
    exact ⟨(told_eq_iff.1 h).1, h⟩

variable {venue} in
/-- Moving a status on is about its venue, for the next one depends on the
    one that there was. -/
theorem isAbout_of_next {op : Int64 → TrackM (Option Status)} (next : Status → Option Status)
    (hkeeps : ∀ now, keepsOthers.Allows (op now).run)
    (hok : ∀ now s current, statusOf s venue = .ok current →
      runOn (op now) s = (.ok (next current), withNext now venue (next current) s))
    (herror : ∀ now s e, statusOf s venue = .error e → runOn (op now) s = (.error e, s)) :
    IsAbout venue op where
  keeps := hkeeps
  apart now s other hother := by
    cases hstatus : statusOf s venue with
    | error e => rw [herror now s e hstatus]
    | ok current =>
      rw [hok now s current hstatus]
      exact told_withNext_ne hother now _ s
  same now now' s s' h := by
    have hstatus := (told_eq_iff.1 h).1
    cases hcurrent : statusOf s venue with
    | error e =>
      rw [herror now s e hcurrent, herror now' s' e (hstatus.symm.trans hcurrent)]
      exact ⟨rfl, h⟩
    | ok current =>
      rw [hok now s current hcurrent, hok now' s' current (hstatus.symm.trans hcurrent)]
      exact ⟨rfl, told_withNext_self now now' _ h⟩

theorem isAbout_handleOpening : IsAbout venue fun now => handleOpening now venue :=
  isAbout_of_next onOpening (fun now => allows_handleOpening now venue)
    (fun now _ _ hstatus => runOn_handleOpening now hstatus)
    fun now _ _ hstatus => runOn_handleOpening_error now hstatus

theorem isAbout_handleWithdraw (reserve : UInt64) :
    IsAbout venue fun now => handleWithdraw policy now venue reserve :=
  isAbout_of_next (fun current => onWithdraw policy current reserve)
    (fun now => allows_handleWithdraw policy now venue reserve)
    (fun now _ _ hstatus => runOn_handleWithdraw policy now reserve hstatus)
    fun now _ _ hstatus => runOn_handleWithdraw_error policy now reserve hstatus

/-- The same ledger is told when the same one was put on record. -/
theorem ledgerOf_withLedger_same (ledger : Ledger) (s s' : Store) :
    ledgerOf (withLedger venue ledger s) venue = ledgerOf (withLedger venue ledger s') venue := by
  apply ledgerOf_congr
  rw [withLedger, withLedger, Store.get?_putRecord, Store.get?_putRecord, if_pos ⟨rfl, rfl⟩,
    if_pos ⟨rfl, rfl⟩]

theorem isAbout_handleSelfSwap (traded : Nat) (succeeded : Bool) :
    IsAbout venue fun now => handleSelfSwap policy now venue traded succeeded where
  keeps now := allows_handleSelfSwap policy now venue traded succeeded
  apart now s other hother := told_eq_iff.2 (handleSelfSwap_ne policy now hother traded succeeded)
  same now now' s s' h := by
    obtain ⟨hstatus, hledger⟩ := told_eq_iff.1 h
    by_cases hgo : succeeded = true ∧ traded ≠ 0
    · obtain ⟨rfl, hpos⟩ := hgo
      rw [runOn_handleSelfSwap_of_pos policy now hpos, runOn_handleSelfSwap_of_pos policy now' hpos,
        ← hledger]
      -- both open a ledger, both close theirs, or both draw on it
      cases hfound : ledgerOf s venue with
      | error e => exact ⟨rfl, h⟩
      | ok found =>
        cases found with
        | none =>
          dsimp only
          rw [told_eq_iff, statusOf_withStatus_self, statusOf_withStatus_self,
            ledgerOf_withStatus, ledgerOf_withStatus]
          exact ⟨rfl, rfl, ledgerOf_withLedger_same venue _ s s'⟩
        | some l =>
          dsimp only
          split
          · dsimp only
            rw [told_eq_iff, statusOf_withStatus_self, statusOf_withStatus_self,
              ledgerOf_withStatus, ledgerOf_withStatus, ledgerOf_withoutLedger_self,
              ledgerOf_withoutLedger_self]
            exact ⟨rfl, rfl, rfl⟩
          · dsimp only
            rw [told_eq_iff, statusOf_withLedger, statusOf_withLedger]
            exact ⟨rfl, hstatus, ledgerOf_withLedger_same venue _ s s'⟩
    · rw [runOn_handleSelfSwap_skipped policy now hgo, runOn_handleSelfSwap_skipped policy now' hgo]
      exact ⟨rfl, h⟩

end Operations

end PoolWatch.Tracking
