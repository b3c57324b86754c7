import PoolWatch.Node.Client
import PoolWatch.Proofs.Json.Canonical
import PoolWatch.Proofs.Submit.Acceptance

/-! # Which answers are refusals

    Three readers take JSON-RPC answers: the relay's inbox, the block engine
    and the node.  To the first two an error of null is no error, as if it
    were missing.  The node's reader takes it for an error, and refuses an
    answer with a result that the other two accept.  On all other answers with
    a result the three of them agree. -/

namespace PoolWatch

/-- What an answer tells under a name: missing and null are nothing. -/
def told? (answer : Json) (name : String) : Option Json :=
  match answer.get? name with
  | none | some .null => none
  | some value => some value

/-- A text writes an object with none of some names twice. -/
def WritesOnce (text : String) (names : List String) : Prop :=
  ∃ members, Json.parse? text = some (.object members) ∧
    ∀ name ∈ names, (members.filter fun m => m.1 == some name).length ≤ 1

/-- A body that is the text of an answer with a result. -/
structure TellsResult (body : Bytes) (text : String) (answer result : Json) : Prop where
  decoded : Text.Utf8.decode? body = some text
  parsed : Json.parseValue? text = some answer
  told : told? answer "result" = some result

variable {body : Bytes} {text name : String} {answer result value : Json}

theorem told?_eq_none_iff :
    told? answer name = none ↔ answer.get? name = none ∨ answer.get? name = some .null := by
  unfold told?
  split
  · next h => simp [h]
  · next h => simp [h]
  · next held hnull h =>
    have hne : held ≠ .null := fun heq => hnull (heq ▸ rfl)
    simp [h, hne]

theorem told?_eq_some_iff :
    told? answer name = some value ↔ answer.get? name = some value ∧ value ≠ .null := by
  unfold told?
  split
  · next h => simp [h]
  · next h => simp [h, eq_comm]
  · next held hnull h =>
    have hne : held ≠ .null := fun heq => hnull (heq ▸ rfl)
    simp only [h, Option.some.injEq]
    constructor
    · rintro rfl
      exact ⟨rfl, hne⟩
    · exact And.left

theorem TellsResult.get? (h : TellsResult body text answer result) :
    answer.get? "result" = some result :=
  (told?_eq_some_iff.1 h.told).1

/-! ## The relay -/

namespace Relay

theorem said_eq_told? (answer : Json) (name : String) :
    said answer name = (told? answer name).getD .null := by
  unfold said told?
  rcases answer.get? name with _ | value
  · rfl
  · cases value <;> rfl

theorem replyOf_of_result (hresult : told? answer "result" = some result) :
    replyOf answer =
      match told? answer "error" with
      | none => .ok result
      | some error => .error error.compact := by
  rw [replyOf_eq_iff, said_eq_told?, said_eq_told?, hresult]
  cases herror : told? answer "error" with
  | none => exact .inl ⟨rfl, rfl⟩
  | some error => exact .inr ⟨(told?_eq_some_iff.1 herror).2, rfl⟩

/-- A number that waits is given what the message with this number says. -/
theorem Inbox.answer?_route {inbox : Inbox} {number : UInt64}
    (hanswer : Json.parseValue? text = some answer)
    (hnumber : (answer.get? "id").bind Json.word64? = some number)
    (hwaits : number.toNat ∈ inbox.pending) :
    (inbox.route text).answer? number.toNat = some (replyOf answer) := by
  have hread : readMessage text = some (number.toNat, replyOf answer) :=
    readMessage_eq_some.2 ⟨answer, ⟨hanswer, number, hnumber, rfl⟩, rfl⟩
  unfold route
  rw [hread]
  dsimp only
  rw [answer?_eq, complete_self hwaits, List.head?_cons]

end Relay

/-! ## The block engine -/

namespace BlockEngine

/-- A member is taken as the general value of the answer holds it. -/
theorem member?_get? {document : Json} (h : document.canonical? Json.maxDepth = some answer)
    (name : String) : member? (document.get? name) = some (told? answer name) := by
  rcases Json.get?_canonical? h name with ⟨hheld, htold⟩ | ⟨held, value, hheld, hvalue, htold⟩
  · rw [hheld, told?_eq_none_iff.2 (.inl htold)]
    rfl
  · rw [hheld]
    by_cases hnull : held = .null
    · have hform : value = .null :=
        Option.some.inj (hvalue.symm.trans (Json.canonical?_eq_null_iff.2 hnull))
      rw [told?_eq_none_iff.2 (.inr (hform ▸ htold)), hnull]
      rfl
    · have hform : value ≠ .null := fun heq => hnull (Json.canonical?_eq_null_iff.1 (heq ▸ hvalue))
      rw [told?_eq_some_iff.2 ⟨htold, hform⟩]
      exact member?_eq_some.2 ⟨hnull, hvalue⟩

/-- The engine's reader takes both members as the general value holds them,
    unless one of their names is repeated. -/
theorem members?_eq (h : TellsResult body text answer result) :
    (WritesOnce text ["result", "error"] →
      members? body = some (some result, told? answer "error")) ∧
    (¬ WritesOnce text ["result", "error"] → members? body = none) := by
  obtain ⟨document, hdocument, hform⟩ := Option.bind_eq_some_iff.1 h.parsed
  have hparse : Json.parseBytes? body = some document := by
    rw [Json.parseBytes?_of_text h.decoded, hdocument]
  -- only an object has a result
  obtain ⟨members, rfl⟩ : ∃ members, document = .object members := by
    have hheld := h.get?
    rcases Json.get?_canonical? hform "result" with ⟨-, hmissing⟩ | ⟨held, _, hheld, _, _⟩
    · rw [hmissing] at hheld
      cases hheld
    · cases document with
      | object members => exact ⟨members, rfl⟩
      | _ => cases hheld
  have hnamed := Json.ne_none_of_canonical? hform
  constructor
  · rintro ⟨written, hwritten, honce⟩
    obtain rfl : members = written := by
      rw [hdocument] at hwritten
      cases hwritten
      rfl
    have hfields := Json.fields?_object_eq_some_iff.2 ⟨hnamed, honce, rfl⟩
    have hmember : member? _ = some (some result) := h.told ▸ member?_get? hform "result"
    exact members?_eq_some.2
      ⟨_, _, _, hparse, hfields, hmember, member?_get? hform "error"⟩
  · intro htwice
    cases hread : members? body with
    | none => rfl
    | some read =>
      -- whatever reads has its fields, and so none of their names twice
      obtain ⟨answer', _, _, hparse', hfields, -⟩ := members?_eq_some.1 hread
      obtain rfl : answer' = .object members := Option.some.inj (hparse'.symm.trans hparse)
      obtain ⟨-, honce, -⟩ := Json.fields?_object_eq_some_iff.1 hfields
      exact absurd ⟨members, hdocument, honce⟩ htwice

/-- What the engine is taken to have answered, whatever the status. -/
theorem readAnswer_of_result (h : TellsResult body text answer result)
    (honce : WritesOnce text ["result", "error"]) (status : Nat) :
    readAnswer (.reply status body) =
      match told? answer "error" with
      | none => .ok ⟨.blockEngine, identifier result⟩
      | some error => .error (.rejected error.compact) := by
  unfold readAnswer
  dsimp only
  rw [readBody_eq, (members?_eq h).1 honce]
  cases told? answer "error" <;> rfl

theorem readAnswer_of_not_writesOnce (h : TellsResult body text answer result)
    (htwice : ¬ WritesOnce text ["result", "error"]) (status : Nat) :
    readAnswer (.reply status body) = .error .malformedAnswer := by
  unfold readAnswer
  dsimp only
  rw [readBody_eq, (members?_eq h).2 htwice]
  rfl

end BlockEngine

/-! ## The node -/

namespace Node

/-- What a question comes to by an answer with a result: a refusal if the
    answer has an error at all, and else what is read of the result. -/
def reading {α : Type} (q : Query) (answer : Json) (read : Except Fault α) : Except String α :=
  match answer.get? "error" with
  | none => read.mapError Fault.message
  | some error => .error (Fault.refused q.method error).message

theorem readAnswer_of_result (h : TellsResult body text answer result) (method : String)
    {status : Nat} (hstatus : Http.isSuccess status = true) :
    readAnswer method (.reply status body) =
      match answer.get? "error" with
      | none => .ok result
      | some error => .error (.refused method error) := by
  unfold readAnswer
  dsimp only
  rw [h.decoded, Option.bind_some, h.parsed]
  dsimp only
  rw [if_pos hstatus]
  unfold resultOf
  cases answer.get? "error" with
  | none => simp only [h.get?]
  | some error => rfl

theorem ask_bind_of_result {α : Type} {peer : Http.Peer Json} {past : List Query} {q : Query}
    {status : Nat} (h : TellsResult body text answer result)
    (hstatus : Http.isSuccess status = true)
    (hpeer : peer (requests past) (requestOf past.length q) = .reply status body)
    (read : Json → Except Fault α) :
    (ask peer past q >>= read).mapError Fault.message = reading q answer (read result) := by
  unfold ask reading
  rw [hpeer, readAnswer_of_result h q.method hstatus]
  cases answer.get? "error" <;> rfl

/-- The node's reader fails on an error of null, too. -/
theorem readAnswer_isError_iff (h : TellsResult body text answer result) (method : String)
    {status : Nat} (hstatus : Http.isSuccess status = true) :
    (∃ fault, readAnswer method (.reply status body) = .error fault) ↔
      told? answer "error" ≠ none ∨ answer.get? "error" = some .null := by
  rw [readAnswer_of_result h method hstatus]
  by_cases htold : told? answer "error" = none
  · rcases told?_eq_none_iff.1 htold with hmissing | hnull
    · simp [hmissing, htold]
    · -- null tells no error, but it is there
      simp [hnull]
  · obtain ⟨error, herror⟩ := Option.ne_none_iff_exists'.1 htold
    simp [(told?_eq_some_iff.1 herror).1, htold]

end Node

/-! ## All three -/

/-- How the three readers take an answer with a result.  The relay's and the
    block engine's refuse it exactly if it tells an error, and an error of null
    is none; only the engine's minds names that are repeated.  The node's
    refuses it if an error is there at all, even null, and else the result
    alone decides what is read. -/
theorem result_refused (h : TellsResult body text answer result) :
    (∀ (inbox : Relay.Inbox) (number : UInt64),
      (answer.get? "id").bind Json.word64? = some number → number.toNat ∈ inbox.pending →
      (inbox.route text).answer? number.toNat =
        some (match told? answer "error" with
          | none => .ok result
          | some error => .error error.compact)) ∧
    (∀ status, WritesOnce text ["result", "error"] →
      BlockEngine.readAnswer (.reply status body) =
        match told? answer "error" with
        | none => .ok ⟨.blockEngine, BlockEngine.identifier result⟩
        | some error => .error (.rejected error.compact)) ∧
    (∀ status, ¬ WritesOnce text ["result", "error"] →
      BlockEngine.readAnswer (.reply status body) = .error .malformedAnswer) ∧
    (∀ status method, Http.isSuccess status = true →
      ((∃ fault, Node.readAnswer method (.reply status body) = .error fault) ↔
        told? answer "error" ≠ none ∨ answer.get? "error" = some .null)) ∧
    (∀ (peer : Http.Peer Json) (past : List Query) status, Http.isSuccess status = true →
      (∀ address, peer (Node.requests past) (Node.requestOf past.length (.account address)) =
          .reply status body →
        (Node.reader peer).account past address =
          Node.reading (.account address) answer (Node.readAccount result)) ∧
      (∀ address, peer (Node.requests past) (Node.requestOf past.length (.balance address)) =
          .reply status body →
        (Node.reader peer).balance past address =
          Node.reading (.balance address) answer (Node.readBalance result)) ∧
      (peer (Node.requests past) (Node.requestOf past.length .blockhash) = .reply status body →
        (Node.reader peer).blockhash past =
          Node.reading .blockhash answer (Node.readBlockhash result))) := by
  refine ⟨?_, ?_, ?_, ?_, ?_⟩
  · intro inbox number hnumber hwaits
    rw [Relay.Inbox.answer?_route h.parsed hnumber hwaits, Relay.replyOf_of_result h.told]
  · intro status honce
    exact BlockEngine.readAnswer_of_result h honce status
  · intro status htwice
    exact BlockEngine.readAnswer_of_not_writesOnce h htwice status
  · intro status method hstatus
    exact Node.readAnswer_isError_iff h method hstatus
  · intro peer past status hstatus
    refine ⟨?_, ?_, ?_⟩
    · intro address hpeer
      exact Node.ask_bind_of_result h hstatus hpeer _
    · intro address hpeer
      exact Node.ask_bind_of_result h hstatus hpeer _
    · intro hpeer
      exact Node.ask_bind_of_result h hstatus hpeer _

/-- A balance beside an error of null: told by the relay and the engine, and
    refused by the node's reader. -/
theorem result_refused_null_error :
    let result : Json := .record [("value", .nat 5)]
    let answer : Json := .record [("error", .null), ("id", .nat 1), ("result", result)]
    let body := Text.Utf8.encode answer.compact
    (Relay.Inbox.empty.expect 1 |>.route answer.compact).answer? 1 = some (.ok result) ∧
    BlockEngine.readAnswer (.reply 200 body) =
      .ok ⟨.blockEngine, "\x7b\"value\":5\x7d"⟩ ∧
    (Node.reader fun _ _ => .reply 200 body).balance [] Key.zero =
      .error "RPC error on getBalance: null" := by
  intro result answer body
  have hresult : result.Plain := Json.plain_record (by simp)
  have hplain : answer.Plain := Json.plain_record (by simp [Json.Plain, hresult])
  have hdecode : Text.Utf8.decode? body = some answer.compact := by decide +kernel
  have hanswer : Json.parseValue? answer.compact = some answer := by
    unfold Json.parseValue?
    rw [Json.parse?_compact hplain]
    rfl
  have honce : WritesOnce answer.compact ["result", "error"] :=
    ⟨_, Json.parse?_compact hplain, by decide⟩
  have hidentifier : BlockEngine.identifier result = "\x7b\"value\":5\x7d" := by decide +kernel
  have htold : told? answer "result" = some result := rfl
  obtain ⟨hrelay, hengine, -, -, hnode⟩ := result_refused ⟨hdecode, hanswer, htold⟩
  refine ⟨hrelay _ 1 rfl (Relay.Inbox.mem_expect _ 1), hidentifier ▸ hengine 200 honce, ?_⟩
  obtain ⟨-, hbalance, -⟩ := hnode (fun _ _ => .reply 200 body) [] 200 rfl
  exact hbalance Key.zero rfl

end PoolWatch
