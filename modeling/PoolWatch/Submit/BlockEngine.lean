import PoolWatch.Http
import PoolWatch.Json.Parser
import PoolWatch.Submit.Router

/-! # Sending through the block engine

    The transaction is posted in base 58, either alone in a compressed body
    or as a bundle of one in a plain body.  The answer carries an error or
    the identifier that the engine gave it. -/

namespace PoolWatch.BlockEngine

/-- How a transaction is handed in. -/
inductive Variant where
  | transaction
  | bundle
  deriving DecidableEq, Repr

/-- The name of a variant. -/
def Variant.name : Variant → String
  | .transaction => "transaction"
  | .bundle => "bundle"

/-- The variant of a name. -/
def Variant.ofName? : String → Option Variant
  | "transaction" => some .transaction
  | "bundle" => some .bundle
  | _ => none

/-- A request to the engine. -/
structure Request where
  url : String
  compressed : Bool
  body : Json

/-- A text without the slashes at its end. -/
def dropSlashes (url : String) : String :=
  String.ofList (url.toList.reverse.dropWhile (· = '/')).reverse

/-- Where a variant is posted, below the engine's address. -/
def Variant.path : Variant → String
  | .transaction => "/api/v1/transactions"
  | .bundle => "/api/v1/bundles"

/-- The method that a variant calls. -/
def Variant.method : Variant → String
  | .transaction => "sendTransaction"
  | .bundle => "sendBundle"

/-- The parameters of a variant. -/
def Variant.params (variant : Variant) (encoded : String) : Json :=
  match variant with
  | .transaction => .array [.text encoded]
  | .bundle => .array [.array [.text encoded]]

/-- The request for a transaction. -/
def request (address : String) (variant : Variant) (tx : Transaction) : Request :=
  { url := dropSlashes address ++ variant.path
    compressed := variant = .transaction
    body := .record [("id", .nat 1), ("jsonrpc", .text "2.0"),
      ("method", .text variant.method),
      ("params", variant.params (Text.Base58.encode tx.encode))] }

/-- A member of the answer: missing and null are none. -/
def member? (j : Option Json) : Option (Option Json) :=
  match j with
  | none => some none
  | some .null => some none
  | some j => (Json.canonical? (Json.maxDepth - 1) j).map some

/-- The identifier in the body of an answer.  An identifier that is no text
    is told as its JSON text.  Members other than the two are passed over,
    also those with strings that are no text. -/
def readBody (body : Bytes) : Except SubmitError String :=
  let members := do
    let answer ← Json.parseBytes? body
    let [result, error] ← answer.fields? ["result", "error"] | none
    pure (← member? result, ← member? error)
  match members with
  | none => .error .malformedAnswer
  | some (_, some error) => .error (.rejected error.compact)
  | some (some (.string (some id)), none) => .ok id
  | some (some other, none) => .ok other.compact
  | some (none, none) => .error .missingResult

/-- What an answer says; its status does not matter. -/
def readAnswer : Http.Answer → Submission
  | .unanswered => .error .engineUnanswered
  | .reply _ body => (readBody body).map fun id => ⟨.blockEngine, id⟩

/-- The submitter of the block engine's channel. -/
def submitter (peer : Http.Peer Request) (address : String) (variant : Variant) : Submitter :=
  fun past tx =>
    readAnswer (peer (past.map (request address variant)) (request address variant tx))

end PoolWatch.BlockEngine
