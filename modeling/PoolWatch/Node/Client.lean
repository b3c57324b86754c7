import PoolWatch.Node.Answer

/-! # Asking a node

    Requests are numbered from one in the order of the questions.  A node
    behind a network peer is a reader: it answers each question from the
    requests that the earlier questions made. -/

namespace PoolWatch

/-- The method that a question calls. -/
def Query.method : Query → String
  | .account _ => "getAccountInfo"
  | .balance _ => "getBalance"
  | .blockhash => "getLatestBlockhash"

namespace Node

/-- The commitment asked for in every question. -/
def commitment : String × Json :=
  ("commitment", .text "confirmed")

/-- The parameters of a question. -/
def params : Query → List Json
  | .account address =>
    [.text address.text, .record [commitment, ("encoding", .text "base64")]]
  | .balance address => [.text address.text, .record [commitment]]
  | .blockhash => [.record [commitment]]

/-- A JSON-RPC request. -/
def request (id : Nat) (method : String) (params : Json) : Json :=
  .record [("id", .nat id), ("jsonrpc", .text "2.0"), ("method", .text method),
    ("params", params)]

/-- The request of a question, given how many questions came before. -/
def requestOf (before : Nat) (q : Query) : Json :=
  request (before + 1) q.method (.array (params q))

/-- The requests of some questions; both are newest first. -/
def requests : List Query → List Json
  | [] => []
  | q :: past => requestOf past.length q :: requests past

/-- Asks a question. -/
def ask (peer : Http.Peer Json) (past : List Query) (q : Query) : Except Fault Json :=
  readAnswer q.method (peer (requests past) (requestOf past.length q))

/-- A node as a reader. -/
def reader (peer : Http.Peer Json) : Reader where
  account past address :=
    (ask peer past (.account address) >>= readAccount).mapError Fault.message
  balance past address :=
    (ask peer past (.balance address) >>= readBalance).mapError Fault.message
  blockhash past := (ask peer past .blockhash >>= readBlockhash).mapError Fault.message

end Node

end PoolWatch
