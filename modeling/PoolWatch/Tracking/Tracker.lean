import PoolWatch.Store.Basic
import PoolWatch.Tracking.Status
import PoolWatch.Tracking.Ledger
import PoolWatch.Envelope.Json
import PoolWatch.Text.Quoted

/-! # Trackers

    The tracking record and the ledger of each venue, kept in the store
    under the venue's key.  A venue without a record is not tracked.  Status
    and venue are stored as texts, so that a damaged record is reported by
    what is wrong with it. -/

namespace PoolWatch.Tracking

/-- Why an operation on trackers was refused. -/
inductive TrackerError where
  | invalidStatus (name : String)
  | invalidVenue (text : String)
  | store (error : StoreError)
  deriving DecidableEq, Repr

/-- What is wrong, as a sentence. -/
def TrackerError.message : TrackerError → String
  | .invalidStatus name => "invalid tracking status " ++ Text.Quoted.quote name
  | .invalidVenue text =>
    "stored venue id " ++ Text.Quoted.quote text ++ " is not a valid key"
  | .store e => e.message

/-- What is on record of one venue. -/
structure Tracker where
  venue : Key
  status : Status
  lastUpdated : Int64
  deriving DecidableEq

/-- A record as stored, before its texts are understood. -/
structure TrackerRecord where
  venue : String
  status : String
  lastUpdated : Int64
  deriving DecidableEq

namespace TrackerRecord

/-- Reads a record. -/
def ofJson? (j : Json) : Option TrackerRecord := do
  let [some venue, some status, some lastUpdated] ←
    j.fields? ["venue_id", "status", "last_updated"] | none
  pure
    { venue := ← venue.text?
      status := ← status.text?
      lastUpdated := ← lastUpdated.int64? }

/-- Writes a record. -/
def toJson (r : TrackerRecord) : Json :=
  .record [("venue_id", .text r.venue), ("status", .text r.status),
    ("last_updated", .int r.lastUpdated.toInt)]

/-- Understands a record: first its venue, then its status. -/
def tracker (r : TrackerRecord) : Except TrackerError Tracker :=
  match Key.parse? r.venue with
  | none => .error (.invalidVenue r.venue)
  | some venue =>
    match Status.ofName? r.status with
    | none => .error (.invalidStatus r.status)
    | some status => .ok ⟨venue, status, r.lastUpdated⟩

end TrackerRecord

/-- An operation on the store that may be refused. -/
abbrev TrackM := ExceptT TrackerError (StateM Store)

/-- Raises what a look at the store found. -/
def lift {α : Type} : Except StoreError α → TrackM α
  | .ok a => pure a
  | .error e => throw (.store e)

/-! ## Reading -/

/-- The record of a venue; without one it is not tracked. -/
def tracker (venue : Key) : TrackM Tracker := do
  let s ← get
  match ← lift (s.record? TrackerRecord.ofJson? venue.text .tracker) with
  | some record => MonadExcept.ofExcept record.tracker
  | none => pure ⟨venue, .notTracked, 0⟩

/-- The status of a venue. -/
def status (venue : Key) : TrackM Status := do
  pure (← tracker venue).status

/-- The ledger of a venue, if one is open. -/
def ledger? (venue : Key) : TrackM (Option Ledger) := do
  let s ← get
  lift (s.record? Ledger.ofJson? venue.text .ledger)

/-- The records under the given keys. -/
def trackersAt : List String → TrackM (List Tracker)
  | [] => pure []
  | key :: rest => do
    let s ← get
    match ← lift (s.record? TrackerRecord.ofJson? key .tracker) with
    | some record =>
      let t ← MonadExcept.ofExcept record.tracker
      pure (t :: (← trackersAt rest))
    | none => trackersAt rest

/-- Every venue on record. -/
def allTrackers : TrackM (List Tracker) := do
  trackersAt ((← get).keysWith Store.Field.tracker.name)

/-! ## Writing -/

/-- Puts a venue on record with a status. -/
def setStatus (now : Int64) (venue : Key) (status : Status) : TrackM Unit :=
  modify fun s =>
    s.putRecord venue.text .tracker (TrackerRecord.toJson ⟨venue.text, status.name, now⟩)

/-- Puts a venue on record with a status given by name. -/
def setStatusNamed (now : Int64) (venue : Key) (name : String) : TrackM Unit :=
  match Status.ofName? name with
  | some status => setStatus now venue status
  | none => throw (.invalidStatus name)

/-- Keeps a ledger for a venue. -/
def saveLedger (venue : Key) (ledger : Ledger) : TrackM Unit :=
  modify fun s => s.putRecord venue.text .ledger ledger.toJson

/-- Drops the ledger of a venue. -/
def dropLedger (venue : Key) : TrackM Unit :=
  modify fun s => s.eraseRecord venue.text .ledger

/-! ## What happens on the chain -/

/-- A pool was opened: a tracked venue pauses. -/
def handleOpening (now : Int64) (venue : Key) : TrackM (Option Status) := do
  let next := onOpening (← status venue)
  if let some next := next then setStatus now venue next
  pure next

/-- Liquidity was withdrawn and left the given native reserve. -/
def handleWithdraw (policy : Policy) (now : Int64) (venue : Key) (reserve : UInt64) :
    TrackM (Option Status) := do
  let next := onWithdraw policy (← status venue) reserve
  if let some next := next then setStatus now venue next
  pure next

/-- What an own swap did to the ledger. -/
inductive LedgerOutcome where
  | opened (ledger : Ledger)
  | decremented (ledger : Ledger)
  | exhausted
  | skipped
  deriving DecidableEq, Repr

/-- An own swap went through: it opens the ledger or draws on it, and the
    last draw closes it and lets the venue go. -/
def handleSelfSwap (policy : Policy) (now : Int64) (venue : Key) (traded : Nat)
    (succeeded : Bool) : TrackM LedgerOutcome := do
  if !succeeded || traded == 0 then
    return .skipped
  match ← ledger? venue with
  | none =>
    let ledger := Ledger.start traded policy.splitter
    saveLedger venue ledger
    setStatus now venue .both
    pure (.opened ledger)
  | some ledger =>
    let ledger := ledger.consume traded
    if ledger.isExhausted then
      dropLedger venue
      setStatus now venue .notTracked
      pure .exhausted
    else
      saveLedger venue ledger
      pure (.decremented ledger)

end PoolWatch.Tracking
