import PoolWatch.Json.Parser

/-! # Relay answers

    Requests to the relay are numbered, and its answers come in any order.
    The inbox holds the numbers that wait for an answer and the answers that
    came in.  A message reaches the one number that it carries, and only
    while that number waits; a disconnect fails every number that waits. -/

namespace PoolWatch.Relay

/-- An answer to a request: the text of an error, or a result. -/
abbrev Reply := Except String Json

/-- The numbers that wait for an answer, and the answers by number. -/
structure Inbox where
  pending : List Nat
  answered : List (Nat × Reply)

namespace Inbox

/-- Nothing waits and nothing came in. -/
def empty : Inbox := ⟨[], []⟩

/-- Lets a number wait. -/
def expect (b : Inbox) (id : Nat) : Inbox :=
  { b with pending := id :: b.pending.erase id }

/-- Lets a number wait no longer, and forgets its answer. -/
def forget (b : Inbox) (id : Nat) : Inbox :=
  ⟨b.pending.erase id, b.answered.filter fun a => a.1 ≠ id⟩

/-- Gives a number that waits its answer. -/
def complete (b : Inbox) (id : Nat) (reply : Reply) : Inbox :=
  if id ∈ b.pending then ⟨b.pending.erase id, (id, reply) :: b.answered⟩ else b

/-- The answer of a number, if it came in. -/
def answer? (b : Inbox) (id : Nat) : Option Reply :=
  b.answered.lookup id

/-- What a disconnect is told as. -/
def disconnectedText : String := "relay disconnected"

/-- Fails every number that waits. -/
def disconnect (b : Inbox) : Inbox :=
  ⟨[], b.pending.map (fun id => (id, .error disconnectedText)) ++ b.answered⟩

end Inbox

/-! ## Messages -/

/-- What a message says: an error unless that is missing or null, else the
    result, which may be missing too. -/
def replyOf (message : Json) : Reply :=
  match message.get? "error" with
  | none | some .null => .ok ((message.get? "result").getD .null)
  | some error => .error error.compact

/-- The number that a message carries, and what it says. -/
def readMessage (text : String) : Option (Nat × Reply) := do
  let message ← Json.parseValue? text
  let id ← (message.get? "id").bind Json.word64?
  pure (id.toNat, replyOf message)

/-- Takes a message; one that carries no number changes nothing. -/
def Inbox.route (b : Inbox) (text : String) : Inbox :=
  match readMessage text with
  | some (id, reply) => b.complete id reply
  | none => b

/-- The signature in a result, or else the text of the result. -/
def signatureOf (result : Json) : String :=
  ((result.get? "signature").bind Json.text?).getD result.compact

end PoolWatch.Relay
