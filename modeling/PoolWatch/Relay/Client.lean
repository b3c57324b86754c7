import PoolWatch.Relay.Inbox
import PoolWatch.Submit.Router
import PoolWatch.Text.Base64
import PoolWatch.Text.Uri
import PoolWatch.Text.Utf8

/-! # The relay client

    One connection to the paid relay, kept open between transactions.  A
    request that cannot be written is sent once more, under its number and
    with its text, after a reconnect.  No number waits any longer once its
    call has returned.

    The network answers each step of the client from the steps before it. -/

namespace PoolWatch.Relay

/-! ## The network -/

/-- A step of the client, and how it went. -/
inductive Step where
  | connect (accepted : Bool)
  | write (text : String) (accepted : Bool)
  | pong (data : Bytes)
  | listen
  deriving DecidableEq, Repr

/-- What the relay may send. -/
inductive Frame where
  | text (text : String)
  | binary (data : Bytes)
  | ping (data : Bytes)
  | close
  | lost
  deriving DecidableEq, Repr

/-- The network as the client meets it.  The steps come newest first; what
    arrives is marked with the number of its connection. -/
structure Link where
  accepts : List Step → Bool
  writes : List Step → String → Bool
  arrivals : List Step → List (Nat × Frame)

/-- A network on which the relay cannot be reached. -/
def Link.unreachable : Link := ⟨fun _ => false, fun _ _ => false, fun _ => []⟩

/-! ## The client -/

/-- Where the relay is, and how the client is known to it. -/
structure Access where
  url : String
  token : String
  stakedNodes : Bool
  deriving DecidableEq, Repr

/-- The state of a client. -/
structure Client where
  inbox : Inbox
  /-- The number of the next request.  It is counted without a bound: no run
      sends the 2 ^ 64 requests after which a word would wrap. -/
  nextId : Nat
  /-- How many connections were opened; the last one has this number.  This is
      counted without a bound for the same reason. -/
  opened : Nat
  connected : Bool
  steps : List Step

/-- A client that has done nothing yet. -/
def Client.new : Client := ⟨.empty, 1, 0, false, []⟩

/-- An operation of the client that may be refused. -/
abbrev ClientM := ExceptT SubmitError (StateM Client)

namespace Client

/-- Remembers a step. -/
def stepped (c : Client) (s : Step) : Client :=
  { c with steps := s :: c.steps }

/-- The connection is gone, and everything that waits has failed. -/
def disconnect (c : Client) : Client :=
  { c with connected := false, inbox := c.inbox.disconnect }

/-- Takes a frame.  Only the end of the newest connection disconnects. -/
def receive (c : Client) : Nat × Frame → Client
  | (_, .text text) => { c with inbox := c.inbox.route text }
  | (_, .binary data) => { c with inbox := c.inbox.route (Text.Utf8.decode data) }
  | (_, .ping data) => if c.connected then c.stepped (.pong data) else c
  | (connection, .close) => if connection = c.opened then c.disconnect else c
  | (connection, .lost) => if connection = c.opened then c.disconnect else c

/-- Takes what has arrived. -/
def listen (link : Link) (c : Client) : Client :=
  ((link.arrivals c.steps).foldl receive c).stepped .listen

end Client

/-- Opens a connection. -/
def connect (access : Access) (link : Link) : ClientM Unit := do
  if !Text.Uri.namesHost access.url then
    throw (.relay .badAddress)
  if !Text.Uri.isHeaderValue access.token then
    throw (.relay .badToken)
  let c ← get
  if link.accepts c.steps then
    set { c.stepped (.connect true) with opened := c.opened + 1, connected := true }
  else
    set (c.stepped (.connect false))
    throw (.relay .unreachable)

/-- Writes a text to the open connection. -/
def write (link : Link) (text : String) : ClientM Unit := do
  let c ← get
  if !c.connected then
    throw (.relay .disconnected)
  let accepted := link.writes c.steps text
  set (c.stepped (.write text accepted))
  if !accepted then
    throw (.relay .sendFailed)

/-- The request for a transaction. -/
def requestText (access : Access) (id : Nat) (tx : Transaction) : String :=
  Json.compact <| .record
    [("id", .nat id), ("jsonrpc", .text "2.0"), ("method", .text "PostSubmit"),
      ("params", .record
        [("fastBestEffort", .bool false), ("frontRunningProtection", .bool false),
          ("skipPreFlight", .bool true),
          ("transaction", .record [("content", .text (Text.Base64.encode tx.encode))]),
          ("useStakedRPCs", .bool access.stakedNodes)])]

/-- Waits for the answer of a number, which waits no longer afterwards. -/
def await (link : Link) (id : Nat) : ClientM String := do
  let c ← modifyGet fun c => let c := c.listen link; (c, c)
  set { c with inbox := c.inbox.forget id }
  match c.inbox.answer? id with
  | some (.ok result) => pure (signatureOf result)
  | some (.error text) => throw (.rejected text)
  | none => throw .timeout

/-- Sends a text once more over a new connection. -/
def resend (access : Access) (link : Link) (id : Nat) (text : String) : ClientM Unit := do
  modify fun c => { c.disconnect with inbox := (c.disconnect.inbox.forget id).expect id }
  try
    connect access link
    write link text
  catch e =>
    modify fun c => { c with inbox := c.inbox.forget id }
    throw e

/-- Sends a transaction and waits for its signature. -/
def post (access : Access) (link : Link) (tx : Transaction) : ClientM String := do
  modify (Client.listen link)
  if !(← get).connected then
    connect access link
  let id := (← get).nextId
  modify fun c => { c with nextId := id + 1, inbox := c.inbox.expect id }
  let text := requestText access id tx
  try
    write link text
  catch _ =>
    resend access link id text
  await link id

end PoolWatch.Relay
