import PoolWatch.Swap

/-! # Submitting transactions

    A transaction is handed to the submitters of the channels it is meant
    for.  A submitter answers from what it was handed before, and the router
    keeps what each channel was handed apart from the others: what happens
    on one channel cannot be seen on another. -/

namespace PoolWatch

/-! ## Answers -/

/-- What can go wrong on the way to the paid relay. -/
inductive RelayFault where
  | badAddress
  | badToken
  | unreachable
  | disconnected
  | sendFailed
  | poolClosed
  deriving DecidableEq, Repr

/-- What is wrong, up to the detail that the network adds. -/
def RelayFault.message : RelayFault → String
  | .badAddress => "bad relay url"
  | .badToken => "bad auth header"
  | .unreachable => "connect"
  | .disconnected => "writer missing (disconnected)"
  | .sendFailed => "send"
  | .poolClosed => "relay pool closed"

/-- Why a transaction was not accepted. -/
inductive SubmitError where
  /-- The block engine could not be asked. -/
  | engineUnanswered
  /-- The node gave no signature for it. -/
  | nodeRefused
  /-- The answer is not of the form it should have. -/
  | malformedAnswer
  | build (error : BuildError)
  | rejected (text : String)
  | missingResult
  | relay (fault : RelayFault)
  /-- The paid relay stayed silent. -/
  | timeout
  | notConfigured (channel : Channel)
  deriving DecidableEq

/-- What is wrong, up to the detail that the network adds. -/
def SubmitError.message : SubmitError → String
  | .engineUnanswered => "http"
  | .nodeRefused => "rpc"
  | .malformedAnswer => "json"
  | .build e => "assemble: " ++ e.message
  | .rejected text => "relay rejected: " ++ text
  | .missingResult => "relay response missing result"
  | .relay fault => "websocket: " ++ fault.message
  | .timeout => "timed out after 10s"
  | .notConfigured channel => "channel " ++ channel.name ++ " is not configured"

/-- An accepted transaction: its signature, or the identifier that the block
    engine gave its bundle. -/
structure Submitted where
  channel : Channel
  signature : String
  deriving DecidableEq, Repr

/-- What came of one submission. -/
abbrev Submission := Except SubmitError Submitted

/-- A way to submit: what it answers to a transaction, given those it was
    handed before, newest first. -/
abbrev Submitter := List Transaction → Transaction → Submission

/-! ## The router -/

/-- The submitters by channel, and what was handed to them, newest first. -/
structure Router where
  submitter? : Channel → Option Submitter
  handed : List (Channel × Transaction)

namespace Router

/-- No submitters. -/
def empty : Router := ⟨fun _ => none, []⟩

/-- Puts a submitter on a channel. -/
def withSubmitter (r : Router) (channel : Channel) (submitter : Submitter) : Router :=
  { r with submitter? := fun c => if c = channel then some submitter else r.submitter? c }

/-- Whether a channel has a submitter. -/
def has (r : Router) (channel : Channel) : Bool :=
  (r.submitter? channel).isSome

/-- What a channel was handed, newest first. -/
def history (r : Router) (channel : Channel) : List Transaction :=
  (r.handed.filter fun h => h.1 = channel).map (·.2)

/-- Hands a transaction to the submitter of a channel. -/
def submit (r : Router) (channel : Channel) (tx : Transaction) : Submission × Router :=
  match r.submitter? channel with
  | none => (.error (.notConfigured channel), r)
  | some submitter =>
    (submitter (r.history channel) tx, { r with handed := (channel, tx) :: r.handed })

/-- Sends on each of some channels in turn. -/
def sendEach (send : Channel → Router → Submission × Router) :
    List Channel → Router → List (Channel × Submission) × Router
  | [], r => ([], r)
  | channel :: rest, r =>
    let (answer, r) := send channel r
    let (answers, r) := sendEach send rest r
    ((channel, answer) :: answers, r)

/-- Sends one transaction on every listed channel; a channel that fails does
    not hold up the others. -/
def race (r : Router) (channels : List Channel) (tx : Transaction) :
    List (Channel × Submission) × Router :=
  sendEach (fun channel r => r.submit channel tx) channels r

/-- What is said of the channels that failed in a race. -/
def raceWarnings (answers : List (Channel × Submission)) : List String :=
  answers.filterMap fun
    | (channel, .error e) => some (channel.name ++ " | submit failed: " ++ e.message)
    | (_, .ok _) => none

end Router

end PoolWatch
