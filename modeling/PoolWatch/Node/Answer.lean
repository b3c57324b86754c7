import PoolWatch.Http
import PoolWatch.Json.Parser
import PoolWatch.Registry.Reader
import PoolWatch.Envelope.Json
import PoolWatch.Text.Base64
import PoolWatch.Text.Utf8

/-! # A node's answers

    A node is asked over JSON-RPC.  Its answer is an object with a result;
    an answer with an error, even an empty one, or without a result is a
    refusal.  What the result has to look like depends on the question. -/

namespace PoolWatch.Node

/-- Why a question had no usable answer. -/
inductive Fault where
  | unanswered (method : String)
  | notJson
  | badStatus (method : String) (status : Nat) (answer : Json)
  | refused (method : String) (error : Json)
  | noResult (method : String) (answer : Json)
  | noData (account : Json)
  | noOwner (account : Json)
  | badOwner
  | badDataText
  | noDataText (data : Json)
  | badDataForm (data : Json)
  | badBalance (result : Json)
  | noBlockhash (result : Json)
  | badBlockhash (text : String) (fault : KeyFault)

/-- What is wrong with the text of a block hash. -/
def blockhashFault : KeyFault → String
  | .wrongSize => "string decoded to wrong size for hash"
  | .badCharacter => "failed to decoded string to hash"

/-- What is wrong, without the causes behind it. -/
def Fault.message : Fault → String
  | .unanswered method => "HTTP RPC request " ++ method
  | .notJson => "HTTP RPC parse json"
  | .badStatus method status answer =>
    "HTTP RPC " ++ method ++ " status=" ++ Text.Decimal.ofNat status ++ " " ++
      Http.reason status ++ " body=" ++ answer.compact
  | .refused method error => "RPC error on " ++ method ++ ": " ++ error.compact
  | .noResult method answer => "RPC " ++ method ++ " missing result: " ++ answer.compact
  | .noData account => "account missing data: " ++ account.compact
  | .noOwner account => "account missing owner: " ++ account.compact
  | .badOwner => "bad owner pubkey"
  | .badDataText => "base64 decode"
  | .noDataText data => "base64 data[0] missing: " ++ data.compact
  | .badDataForm data => "unexpected base64 field: " ++ data.compact
  | .badBalance result => "getBalance unexpected: " ++ result.compact
  | .noBlockhash result => "getLatestBlockhash unexpected: " ++ result.compact
  | .badBlockhash text fault => "bad blockhash " ++ text ++ ": " ++ blockhashFault fault

/-! ## The envelope of an answer -/

/-- The result in a JSON answer. -/
def resultOf (method : String) (answer : Json) : Except Fault Json :=
  match answer.get? "error" with
  | some error => .error (.refused method error)
  | none =>
    match answer.get? "result" with
    | some result => .ok result
    | none => .error (.noResult method answer)

/-- The result in what came back for a request.  A body that is no JSON is
    told before a bad status. -/
def readAnswer (method : String) : Http.Answer → Except Fault Json
  | .unanswered => .error (.unanswered method)
  | .reply status body =>
    match (Text.Utf8.decode? body).bind Json.parseValue? with
    | none => .error .notJson
    | some answer =>
      if Http.isSuccess status then resultOf method answer
      else .error (.badStatus method status answer)

/-! ## Results -/

/-- A text of base 64 digits. -/
def readDataText (text : String) : Except Fault Bytes :=
  match Text.Base64.decode? text with
  | some bytes => .ok bytes
  | none => .error .badDataText

/-- The data of an account: a text, or an array that starts with one. -/
def readData (data : Json) : Except Fault Bytes :=
  match data with
  | .array items =>
    match items.head?.bind Json.text? with
    | some text => readDataText text
    | none => .error (.noDataText data)
  | .string (some text) => readDataText text
  | _ => .error (.badDataForm data)

/-- An account that is there. -/
def readPresent (account : Json) : Except Fault AccountInfo := do
  let some data := account.get? "data" | throw (.noData account)
  let some owner := (account.get? "owner").bind Json.text? | throw (.noOwner account)
  let data ← readData data
  let some owner := Key.parse? owner | throw .badOwner
  pure ⟨data, owner, ((account.get? "lamports").bind Json.word64?).getD 0⟩

/-- An account, which is not there when its value is missing or null. -/
def readAccount (result : Json) : Except Fault (Option AccountInfo) :=
  match result.get? "value" with
  | none => .ok none
  | some .null => .ok none
  | some account => (readPresent account).map some

/-- A balance. -/
def readBalance (result : Json) : Except Fault UInt64 :=
  match (result.get? "value").bind Json.word64? with
  | some lamports => .ok lamports
  | none => .error (.badBalance result)

/-- The latest block hash. -/
def readBlockhash (result : Json) : Except Fault Key :=
  match ((result.get? "value").bind (Json.get? · "blockhash")).bind Json.text? with
  | none => .error (.noBlockhash result)
  | some text =>
    match Key.parse text with
    | .ok hash => .ok hash
    | .error fault => .error (.badBlockhash text fault)

end PoolWatch.Node
