import PoolWatch.Watcher.Process

/-! # The crew

    Several workers share a queue of envelopes.  A worker handles one
    envelope after the other until a withdrawal has to settle; while it
    waits, the next worker goes on with the queue.  When all of them wait,
    time passes until the first withdrawal has settled.

    The crew stops when the queue is closed and empty, or on shutdown. -/

namespace PoolWatch.Watcher

/-! ## Handling -/

/-- An envelope whose handling waits for a withdrawal to settle: until when,
    and what is left of it. -/
structure Suspended where
  due : Nat
  envelope : Envelope
  withdrawn : Withdrawn
  scan : Scan
  rest : List CompiledInstruction

/-- Whether an instruction is a withdrawal. -/
def isWithdraw (e : Envelope) (ix : CompiledInstruction) : Bool :=
  e.programOf? ix = some Address.venueProgram &&
    match Instruction.decodeVenue ix.data with
    | .ok (.withdraw _) => true
    | _ => false

/-- Takes instructions up to a withdrawal that has to settle; when there is
    none, the envelope is finished. -/
def advance (s : Setup) (e : Envelope) (scan : Scan) :
    List CompiledInstruction → StateM State (Option Suspended)
  | [] => do
    let _ ← conclude s e scan
    pure none
  | ix :: rest => do
    if isWithdraw e ix && 0 < s.policy.settle then
      match ← attempt e.signature "withdraw" (findWithdrawn e ix) with
      | none => advance s e scan rest
      | some x =>
        let w ← get
        pure (some ⟨w.time + s.policy.settle, e, x, scan, rest⟩)
    else advance s e (← scanOne s e scan ix) rest

/-- Goes on with an envelope whose withdrawal has settled. -/
def resume (s : Setup) (x : Suspended) : StateM State (Option Suspended) := do
  modify fun w => { w with time := max w.time x.due }
  let _ ← attempt x.envelope.signature "withdraw" (settleWithdraw s x.envelope x.withdrawn)
  advance s x.envelope x.scan x.rest

/-- Takes envelopes from the queue up to one that has to wait.  What waits,
    if something does, and what is left in the queue. -/
def takeEnvelopes (s : Setup) : List Envelope → StateM State (Option Suspended × List Envelope)
  | [] => pure (none, [])
  | e :: queue => do
    let w ← get
    if w.seen.remembers w.time e.signature then takeEnvelopes s queue
    else
      modify (noteArrival s e)
      match ← advance s e ⟨.none, none⟩ e.instructions with
      | some x => pure (some x, queue)
      | none => takeEnvelopes s queue

/-- Starts a number of workers, each when the one before it waits. -/
def startWorkers (s : Setup) (queue : List Envelope) :
    Nat → StateM State (List Suspended × List Envelope)
  | 0 => pure ([], queue)
  | count + 1 => do
    let (x, queue) ← takeEnvelopes s queue
    let (more, queue) ← startWorkers s queue count
    pure (x.toList ++ more, queue)

/-- Lets the workers that wait go on, in the order of their waiting, and take
    from the queue again.  Each round uses up an instruction, so there are no
    more rounds than instructions. -/
def settleAll (s : Setup) : Nat → List Suspended → List Envelope → StateM State Unit
  | 0, _, _ => pure ()
  | _, [], _ => pure ()
  | rounds + 1, x :: waiting, queue => do
    match ← resume s x with
    | some again => settleAll s rounds (waiting ++ [again]) queue
    | none =>
      let (next, queue) ← takeEnvelopes s queue
      settleAll s rounds (waiting ++ next.toList) queue

/-- The workers that share a queue. -/
structure Crew where
  size : Nat
  deriving DecidableEq, Repr

/-- There is always at least one worker. -/
def Crew.ofRequest (workers : Nat) : Crew := ⟨max workers 1⟩

/-- The instructions of some envelopes, all together. -/
def instructionCount (queue : List Envelope) : Nat :=
  queue.foldl (fun count e => count + e.instructions.length) 0

/-- Handles all envelopes of a queue.  Workers past the number of envelopes
    find nothing to do. -/
def Crew.handleAll (c : Crew) (s : Setup) (queue : List Envelope) : StateM State Unit := do
  let (waiting, left) ← startWorkers s queue (min c.size queue.length)
  settleAll s (instructionCount queue) waiting left

/-! ## Stopping -/

/-- A flag that is set once and for all. -/
structure Shutdown where
  isSet : Bool
  deriving DecidableEq, Repr

/-- Not shut down. -/
def Shutdown.new : Shutdown := ⟨false⟩

/-- Sets the flag, which may be set already. -/
def Shutdown.trigger (_ : Shutdown) : Shutdown := ⟨true⟩

/-- Sets the flag several times. -/
def Shutdown.triggerTimes (s : Shutdown) : Nat → Shutdown
  | 0 => s
  | n + 1 => s.trigger.triggerTimes n

/-- How many workers have stopped once the queue is empty. -/
def Crew.stopped (c : Crew) (queueClosed : Bool) (s : Shutdown) : Nat :=
  if queueClosed || s.isSet then c.size else 0

end PoolWatch.Watcher
