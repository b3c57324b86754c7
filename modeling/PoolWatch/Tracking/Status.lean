import PoolWatch.Address

/-! # Tracking status

    What the bot does about a venue, and the two rules that change it: the
    opening of a pool pauses a tracked venue, and a drained pool resumes a
    paused venue or takes up a new one. -/

namespace PoolWatch.Tracking

/-- What is done about a venue. -/
inductive Status where
  | notTracked
  | paused
  | triggerOnly
  | both
  deriving DecidableEq, Repr

namespace Status

/-- The name of a status. -/
def name : Status → String
  | .notTracked => "NOT_TRACKED"
  | .paused => "PAUSE"
  | .triggerOnly => "TRACKED_TRIGGER_ONLY"
  | .both => "TRACKED_BOTH"

/-- The status of a name. -/
def ofName? : String → Option Status
  | "NOT_TRACKED" => some .notTracked
  | "PAUSE" => some .paused
  | "TRACKED_TRIGGER_ONLY" => some .triggerOnly
  | "TRACKED_BOTH" => some .both
  | _ => none

/-- Whether swaps of a venue are followed. -/
def isTracked : Status → Bool
  | .triggerOnly => true
  | .both => true
  | _ => false

@[simp] theorem ofName?_name (s : Status) : ofName? s.name = some s := by
  cases s <;> rfl

end Status

/-- The settings that the rules depend on. -/
structure Policy where
  /-- Into how many stages a liquidation is cut. -/
  splitter : UInt64
  /-- The native reserve up to which a pool counts as drained. -/
  floor : UInt64
  /-- What a venue that was not tracked becomes once it is drained. -/
  withdrawMode : Status
  /-- How long a withdrawal is given to settle, in milliseconds. -/
  settle : Nat
  deriving DecidableEq, Repr

/-- Fifty stages, a floor of one native unit, triggers only, half a second. -/
def Policy.standard : Policy :=
  ⟨50, Address.lamportsPerUnit, .triggerOnly, 500⟩

/-- What the opening of a pool makes of a venue. -/
def onOpening (current : Status) : Option Status :=
  if current.isTracked then some .paused else none

/-- What a withdrawal makes of a venue whose native reserve is then known. -/
def onWithdraw (policy : Policy) (current : Status) (reserve : UInt64) : Option Status :=
  if policy.floor < reserve then none
  else
    match current with
    | .paused => some .both
    | .notTracked => some policy.withdrawMode
    | _ => none

end PoolWatch.Tracking
