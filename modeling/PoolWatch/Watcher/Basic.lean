import PoolWatch.Executor
import PoolWatch.Registry.Resolve
import PoolWatch.Tracking.Tracker
import PoolWatch.Trade.History
import PoolWatch.Watcher.Facts

/-! # The watcher

    The state that envelopes are handled in: what is known of the chain, the
    trade history, the router, the signatures seen lately, and the latest
    block hash of the feed.  Time is counted in milliseconds; it passes
    outside, and while a withdrawal is given time to settle.

    The feed may tell of one transaction several times.  A signature that was
    handled is remembered for a window of time; while it is remembered,
    further sightings of it are duplicates and do not extend the window.

    What is seen on a venue may be acted on by a strategy, which is a function
    from triggers to intents. -/

namespace PoolWatch

/-- How serious a notice is. -/
inductive Severity where
  | warning
  | failure
  deriving DecidableEq, Repr

/-- The name of a severity. -/
def Severity.name : Severity → String
  | .warning => "WARN"
  | .failure => "ERROR"

/-- Something to tell whoever runs the watcher. -/
structure Notice where
  severity : Severity
  text : String
  deriving DecidableEq, Repr

/-- A warning. -/
def Notice.warn (text : String) : Notice := ⟨.warning, text⟩

/-- A failure. -/
def Notice.fail (text : String) : Notice := ⟨.failure, text⟩

namespace Watcher

/-! ## Sightings -/

/-- A signature that was handled, and the time from which it is forgotten. -/
structure Sighting where
  signature : String
  expiry : Nat
  deriving DecidableEq, Repr

/-- The sightings that were noted. -/
abbrev Sightings := List Sighting

namespace Sightings

/-- Whether a signature is remembered at a time. -/
def remembers (seen : Sightings) (time : Nat) (signature : String) : Bool :=
  seen.any fun s => s.signature = signature && time < s.expiry

/-- Notes a signature for a window of time, and drops what is forgotten. -/
def note (seen : Sightings) (time window : Nat) (signature : String) : Sightings :=
  ⟨signature, time + window⟩ :: seen.filter fun s => time < s.expiry

end Sightings

/-! ## Triggers -/

/-- An event on a venue. -/
inductive Trigger where
  /-- Liquidity was withdrawn, and the native reserve is at the floor or below. -/
  | drained (keys : PoolKeys) (reserve : UInt64) (signature : String)
  /-- Someone else swapped on a tracked venue. -/
  | otherSwap (keys : PoolKeys) (action : TradeAction) (amount : Int) (signer : Key)
      (signature : String)
  deriving DecidableEq

/-- The pool that an event is about. -/
def Trigger.keys : Trigger → PoolKeys
  | .drained keys _ _ => keys
  | .otherSwap keys _ _ _ _ => keys

/-- The venue of an event. -/
def Trigger.venue (t : Trigger) : Key :=
  t.keys.id

/-- What to send on an event, if anything. -/
abbrev Strategy := Trigger → Option Intent

/-- Watches and never trades. -/
def Strategy.idle : Strategy := fun _ => none

/-! ## States -/

/-- What stays the same while a watcher runs. -/
structure Setup where
  policy : Tracking.Policy
  /-- The key whose swaps are the bot's own. -/
  bot : Key
  /-- How long a signature is remembered, in milliseconds. -/
  window : Nat
  strategy : Strategy
  executor : Option Executor
  /-- Milliseconds between the epoch and the watcher's time zero. -/
  epoch : Int64

/-- What changes while a watcher runs.  Triggers and notices are kept newest
    first. -/
structure State where
  registry : Registry
  trades : TradeHistory
  router : Router
  seen : Sightings
  blockhash : Key
  time : Nat
  fired : List Trigger
  notices : List Notice

/-- The wall clock, in milliseconds since the epoch. -/
def Setup.wallClock (s : Setup) (w : State) : Int64 :=
  s.epoch + Int64.ofNat w.time

/-- Milliseconds in a second. -/
def millisPerSecond : Int64 := 1000

/-- The wall clock, in whole seconds since the epoch. -/
def Setup.wallSeconds (s : Setup) (w : State) : Int64 :=
  s.wallClock w / millisPerSecond

/-- Why the handling of an instruction was broken off. -/
inductive HandlingError where
  | resolve (error : ResolveError)
  | pool (error : PoolError)
  | tracker (error : Tracking.TrackerError)
  | shortSwap (venue : Key) (accounts : Nat)
  | notRecorded (trade : Trade)
  deriving DecidableEq

/-- What is wrong, as a sentence. -/
def HandlingError.message : HandlingError → String
  | .resolve e => e.message
  | .pool e => e.message
  | .tracker e => e.message
  | .shortSwap venue accounts =>
    venue.text ++ " | Invalid data length (" ++ Text.Decimal.ofNat accounts ++ ")"
  | .notRecorded trade => TradeHistory.insertMessage trade

/-- Handling that may be broken off; what was done until then stays done. -/
abbrev WatchM := ExceptT HandlingError (StateM State)

/-- Runs an operation on the registry. -/
def onRegistry {ε α : Type} (wrap : ε → HandlingError) (op : RegistryM ε α) : WatchM α :=
  fun w =>
    let (answer, registry) := op w.registry
    (answer.mapError wrap, { w with registry })

/-- Runs an operation on the trackers in the registry's store. -/
def onTrackers {α : Type} (op : Tracking.TrackM α) : WatchM α :=
  fun w =>
    let (answer, store) := op w.registry.store
    (answer.mapError .tracker, { w with registry := { w.registry with store } })

/-- Tells something. -/
def tell (notice : Notice) : StateM State Unit :=
  modify fun w => { w with notices := notice :: w.notices }

/-- Lets time pass. -/
def wait (millis : Nat) : StateM State Unit :=
  modify fun w => { w with time := w.time + millis }

/-- Runs a handling; one that is broken off is told as a warning about the
    transaction. -/
def attempt {α : Type} (signature what : String) (op : WatchM α) : StateM State (Option α) := do
  match ← op.run with
  | .ok a => pure (some a)
  | .error e =>
    tell (.warn (signature ++ " | " ++ what ++ ": " ++ e.message))
    pure none

end Watcher

end PoolWatch
