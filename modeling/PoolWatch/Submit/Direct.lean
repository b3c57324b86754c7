import PoolWatch.Node.Client
import PoolWatch.Submit.Router

/-! # Sending through a node

    The transaction is sent in base 64, without a trial run and with one
    retry by the node.  The node answers with the signature; any other
    answer is a refusal. -/

namespace PoolWatch.Direct

/-- How often the node tries again. -/
def maxRetries : Nat := 1

/-- What is asked of the node beside the transaction. -/
def config : Json :=
  .record [("encoding", .text "base64"), ("maxRetries", .nat maxRetries),
    ("minContextSlot", .null), ("preflightCommitment", .text "confirmed"),
    ("skipPreflight", .bool true)]

/-- The request for a transaction, given how many were sent before. -/
def request (before : Nat) (tx : Transaction) : Json :=
  Node.request before "sendTransaction"
    (.array [.text (Text.Base64.encode tx.encode), config])

/-- The requests for some transactions; both are newest first. -/
def requests : List Transaction → List Json
  | [] => []
  | tx :: past => request past.length tx :: requests past

/-- The signature in an answer, which has to be the transaction's own. -/
def readAnswer (tx : Transaction) (answer : Http.Answer) : Submission :=
  match answer with
  | .unanswered => .error .nodeRefused
  | .reply status body =>
    let result := do
      let answer ← (Text.Utf8.decode? body).bind Json.parseValue?
      match answer.get? "error" with
      | none | some .null => (answer.get? "result").bind Json.text?
      | some _ => none
    if Http.isSuccess status && !tx.signatures.isEmpty && result = some tx.signatureText then
      .ok ⟨.direct, tx.signatureText⟩
    else .error .nodeRefused

/-- The submitter of the direct channel. -/
def submitter (peer : Http.Peer Json) : Submitter := fun past tx =>
  readAnswer tx (peer (requests past) (request past.length tx))

end PoolWatch.Direct
