import PoolWatch.Proofs.Relay.Requests
import PoolWatch.Relay.Pool
import PoolWatch.Submit.BlockEngine

/-! # What is reported as accepted

    A transaction counts as accepted by the answer that comes back.  The
    block engine's answer has to carry a result and no error; where neither
    is said, that is told as a missing result.

    The paid relay's answer only has to carry no error.  Its result is taken
    as it is, and where there is none the transaction is reported as accepted
    under the signature `null`. -/

namespace PoolWatch

/-! ## The block engine -/

namespace BlockEngine

variable {body : Bytes} {result error : Json}

/-- What a body says: its result and its error, where nothing is the same as
    null. -/
def Says (body : Bytes) (result error : Json) : Prop :=
  ∃ answer result? error?, Json.parseBytes? body = some answer ∧
    answer.fields? ["result", "error"] = some [result?, error?] ∧
    result?.getD .null = result ∧ error?.getD .null = error

/-- The two members of the answer in a body, as `readBody` reads them. -/
def members? (body : Bytes) : Option (Option Json × Option Json) := do
  let answer ← Json.parseBytes? body
  let [result, error] ← answer.fields? ["result", "error"] | none
  pure (← member? result, ← member? error)

/-- The identifier that a result is told as. -/
def identifier : Json → String
  | .string (some id) => id
  | other => other.compact

theorem readBody_eq (body : Bytes) :
    readBody body =
      match members? body with
      | none => .error .malformedAnswer
      | some (_, some error) => .error (.rejected error.compact)
      | some (some result, none) => .ok (identifier result)
      | some (none, none) => .error .missingResult := by
  unfold readBody
  dsimp only
  split
  · next h => rw [show members? body = none from h]
  · next said error h => rw [show members? body = some (said, some error) from h]
  · next id h => rw [show members? body = some (some (.string (some id)), none) from h]; rfl
  · next other hother h =>
    rw [show members? body = some (some other, none) from h]
    cases other with
    | string text? =>
      cases text? with
      | none => rfl
      | some id => exact absurd rfl (hother id)
    | _ => rfl
  · next h => rw [show members? body = some (none, none) from h]

theorem member?_eq_none {j : Option Json} : member? j = some none ↔ j.getD .null = .null := by
  rcases j with _ | j
  · simp [member?]
  · cases j <;> simp [member?]

theorem member?_eq_some {j : Option Json} {value : Json} :
    member? j = some (some value) ↔
      j.getD .null ≠ .null ∧ Json.canonical? (Json.maxDepth - 1) (j.getD .null) = some value := by
  rcases j with _ | j
  · simp [member?]
  · cases j <;> simp [member?]

theorem members?_eq_some {read : Option Json × Option Json} :
    members? body = some read ↔
      ∃ answer result? error?, Json.parseBytes? body = some answer ∧
        answer.fields? ["result", "error"] = some [result?, error?] ∧
        member? result? = some read.1 ∧ member? error? = some read.2 := by
  unfold members?
  constructor
  · intro h
    obtain ⟨answer, hparse, h⟩ := Option.bind_eq_some_iff.1 h
    obtain ⟨fields, hfields, h⟩ := Option.bind_eq_some_iff.1 h
    split at h
    · next result? error? =>
      obtain ⟨result, hresult, h⟩ := Option.bind_eq_some_iff.1 h
      obtain ⟨error, herror, h⟩ := Option.bind_eq_some_iff.1 h
      cases h
      exact ⟨answer, result?, error?, hparse, hfields, hresult, herror⟩
    · cases h
  · rintro ⟨answer, result?, error?, hparse, hfields, hresult, herror⟩
    simp only [hparse, hfields, hresult, herror, Option.bind_eq_bind, Option.bind_some,
      Option.pure_def]

/-- The block engine is taken to have accepted exactly if its answer has no
    error and a result, and the identifier is that result's. -/
theorem readBody_eq_ok {id : String} :
    readBody body = .ok id ↔
      ∃ result value, Says body result .null ∧ result ≠ .null ∧
        Json.canonical? (Json.maxDepth - 1) result = some value ∧ id = identifier value := by
  have hread : readBody body = .ok id ↔
      ∃ value, members? body = some (some value, none) ∧ id = identifier value := by
    rw [readBody_eq]
    rcases members? body with _ | ⟨value | value, error | error⟩ <;> simp [eq_comm]
  rw [hread]
  constructor
  · rintro ⟨value, hmembers, rfl⟩
    obtain ⟨answer, result?, error?, hparse, hfields, hresult, herror⟩ :=
      members?_eq_some.1 hmembers
    obtain ⟨hne, hvalue⟩ := member?_eq_some.1 hresult
    exact ⟨_, value, ⟨answer, result?, error?, hparse, hfields, rfl, member?_eq_none.1 herror⟩,
      hne, hvalue, rfl⟩
  · rintro ⟨_, value, ⟨answer, result?, error?, hparse, hfields, rfl, herror⟩, hne, hvalue, rfl⟩
    have hmembers : members? body = some (some value, none) :=
      members?_eq_some.2 ⟨answer, result?, error?, hparse, hfields,
        member?_eq_some.2 ⟨hne, hvalue⟩, member?_eq_none.2 herror⟩
    exact ⟨value, hmembers, rfl⟩

/-- A member that is passed over may have a string that is no text. -/
example : readBody (Text.Utf8.encode "\x7b\"result\":\"abc\",\"x\":\"" ++ 0xff ::
    Text.Utf8.encode "\"\x7d") = .ok "abc" := by decide +kernel

/-- What says neither a result nor an error is told as a missing result. -/
theorem readBody_eq_missing :
    readBody body = .error .missingResult ↔ Says body .null .null := by
  have hread : readBody body = .error .missingResult ↔ members? body = some (none, none) := by
    rw [readBody_eq]
    rcases members? body with _ | ⟨value | value, error | error⟩ <;> simp
  rw [hread, members?_eq_some]
  simp only [member?_eq_none]
  rfl

theorem readAnswer_eq_ok {answer : Http.Answer} {submitted : Submitted} :
    readAnswer answer = .ok submitted ↔
      ∃ status body result value, answer = .reply status body ∧ Says body result .null ∧
        result ≠ .null ∧ Json.canonical? (Json.maxDepth - 1) result = some value ∧
        submitted = ⟨.blockEngine, identifier value⟩ := by
  cases answer with
  | unanswered => exact ⟨nofun, nofun⟩
  | reply status body =>
    unfold readAnswer
    rw [map_eq_ok]
    constructor
    · rintro ⟨id, hread, rfl⟩
      obtain ⟨result, value, hsays, hne, hvalue, rfl⟩ := readBody_eq_ok.1 hread
      exact ⟨status, body, result, value, rfl, hsays, hne, hvalue, rfl⟩
    · rintro ⟨_, _, result, value, heq, hsays, hne, hvalue, rfl⟩
      cases heq
      exact ⟨_, readBody_eq_ok.2 ⟨result, value, hsays, hne, hvalue, rfl⟩, rfl⟩

theorem readAnswer_eq_missing {answer : Http.Answer} :
    readAnswer answer = .error .missingResult ↔
      ∃ status body, answer = .reply status body ∧ Says body .null .null := by
  cases answer with
  | unanswered => exact ⟨nofun, nofun⟩
  | reply status body =>
    unfold readAnswer
    rw [map_eq_error, readBody_eq_missing]
    constructor
    · intro hsays
      exact ⟨status, body, rfl, hsays⟩
    · rintro ⟨_, _, heq, hsays⟩
      cases heq
      exact hsays

end BlockEngine

/-! ## The paid relay -/

namespace Relay

open Client

variable {c : Client} {id : Nat} {message : Json}

/-- A message is the first thing that tells a number anything. -/
def Client.FirstSaid (c : Client) (arrivals : List (Nat × Frame)) (id : Nat) (message : Json) :
    Prop :=
  ∃ before text rest, c.events arrivals = before ++ Inbox.Event.message text :: rest ∧
    (∀ e ∈ before, e.tells id = none) ∧ Carries text id message

theorem Client.FirstSaid.told {arrivals : List (Nat × Frame)}
    (h : c.FirstSaid arrivals id message) : c.told arrivals id = some (replyOf message) := by
  obtain ⟨before, text, rest, hevents, hbefore, hcarries⟩ := h
  have htells : Inbox.Event.tells id (.message text) = some (replyOf message) :=
    Inbox.Event.tells_message.2 ⟨message, hcarries, rfl⟩
  exact List.findSome?_eq_some_iff.2 ⟨before, _, rest, hevents, htells, hbefore⟩

/-- A result can only come from a message: the end of a connection is an error. -/
theorem Client.told_eq_ok {arrivals : List (Nat × Frame)} {result : Json} :
    c.told arrivals id = some (.ok result) ↔
      ∃ message, c.FirstSaid arrivals id message ∧ said message "error" = .null ∧
        said message "result" = result := by
  constructor
  · intro h
    obtain ⟨before, e, rest, hevents, htells, hbefore⟩ := List.findSome?_eq_some_iff.1 h
    cases e with
    | disconnect => cases htells
    | message text =>
      obtain ⟨message, hcarries, hreply⟩ := Inbox.Event.tells_message.1 htells
      rcases replyOf_eq_iff.1 hreply with ⟨herror, hresult⟩ | ⟨_, herror⟩
      · exact ⟨message, ⟨before, text, rest, hevents, hbefore, hcarries⟩, herror,
          (Except.ok.inj hresult).symm⟩
      · cases herror
  · rintro ⟨message, hfirst, herror, rfl⟩
    rw [hfirst.told, replyOf_eq_iff.2 (.inl ⟨herror, rfl⟩)]

variable {access : Access} {link : Link} {tx : Transaction}

/-- A message answers a transaction: its request was written and waited, and
    the message was the first thing that told its number anything. -/
def AnsweredBy (access : Access) (link : Link) (tx : Transaction) (c : Client) (message : Json) :
    Prop :=
  ∃ c', Moves c c' ∧ c.nextId ∈ c'.inbox.pending ∧
    .write (requestText access c.nextId tx) true ∈ c'.steps ∧
    runOn (post access link tx) c = runOn (await link c.nextId) c' ∧
    c'.FirstSaid (link.arrivals c'.steps) c.nextId message

/-- The paid relay is taken to have accepted exactly if its answer has no
    error, and the signature is that of its result, even if it has none. -/
theorem post_eq_ok (hsound : c.IsSound) {signature : String} :
    (runOn (post access link tx) c).1 = .ok signature ↔
      ∃ message, AnsweredBy access link tx c message ∧ said message "error" = .null ∧
        signature = signatureOf (said message "result") := by
  constructor
  · intro h
    have hposted := post_posted hsound access link tx
    generalize hrun : runOn (post access link tx) c = r at h hposted
    cases hposted with
    | refused f _ => cases h
    | @waited c' moves waits written =>
      have hawait := runOn_await_of_mem (moves.keeps hsound).1 waits link
      rcases htold : c'.told (link.arrivals c'.steps) c.nextId with _ | text | result
      · rw [htold] at h
        cases h
      · rw [htold] at h
        cases h
      · rw [htold] at h
        obtain ⟨message, hfirst, herror, rfl⟩ := told_eq_ok.1 htold
        exact ⟨message, ⟨c', moves, waits, written, hrun.trans hawait.symm, hfirst⟩, herror,
          (Except.ok.inj h).symm⟩
  · rintro ⟨message, ⟨c', moves, waits, written, hrun, hfirst⟩, herror, rfl⟩
    have htold := told_eq_ok.2 ⟨message, hfirst, herror, rfl⟩
    rw [hrun, runOn_await_of_mem (moves.keeps hsound).1 waits, htold]
    rfl

theorem signatureOf_null : signatureOf .null = "null" := rfl

namespace Pool

variable {pool : Pool}

/-- Every worker's client is sound. -/
def IsSound (pool : Pool) : Prop :=
  ∀ worker ∈ pool, worker.client.IsSound

theorem IsSound.post (h : pool.IsSound) (access : Access) (tx : Transaction) :
    (pool.post access tx).2.IsSound := by
  cases pool with
  | nil => exact h
  | cons worker rest =>
    have hworker := h worker (List.mem_cons_self ..)
    intro worker' hworker'
    rcases List.mem_append.1 hworker' with hrest | hlast
    · exact h worker' (List.mem_cons_of_mem _ hrest)
    · -- the worker whose turn it was
      obtain rfl := List.mem_singleton.1 hlast
      exact ((post_posted hworker access worker.link tx).moves.keeps hworker).1

theorem IsSound.after (h : pool.IsSound) (access : Access) (past : List Transaction) :
    (pool.after access past).IsSound := by
  induction past with
  | nil => exact h
  | cons tx past ih => exact ih.post access tx

/-- What the pool answers is what the worker answers whose turn it is. -/
theorem post_eq_ok (hsound : pool.IsSound) {submitted : Submitted} :
    (pool.post access tx).1 = .ok submitted ↔
      ∃ worker rest message, pool = worker :: rest ∧
        AnsweredBy access worker.link tx worker.client message ∧ said message "error" = .null ∧
        submitted = ⟨.paidRelay, signatureOf (said message "result")⟩ := by
  cases pool with
  | nil => exact ⟨nofun, nofun⟩
  | cons worker rest =>
    have hworker := hsound worker (List.mem_cons_self ..)
    show (runOn (Relay.post access worker.link tx) worker.client).1.map
      (fun signature => (⟨.paidRelay, signature⟩ : Submitted)) = .ok submitted ↔ _
    rw [map_eq_ok]
    constructor
    · rintro ⟨signature, hsignature, rfl⟩
      obtain ⟨message, hmessage, herror, rfl⟩ := (Relay.post_eq_ok hworker).1 hsignature
      exact ⟨worker, rest, message, rfl, hmessage, herror, rfl⟩
    · rintro ⟨_, _, message, heq, hmessage, herror, rfl⟩
      cases heq
      exact ⟨_, (Relay.post_eq_ok hworker).2 ⟨message, hmessage, herror, rfl⟩, rfl⟩

end Pool

end Relay

/-! ## A relay that says nothing

    It takes every connection and every request, and all that it ever sends
    is a message with the number 1 and nothing else. -/

namespace Relay.Silent

open Client

/-- What it sends. -/
def message : Json := .record [("id", .nat 1)]

/-- The network of such a relay. -/
def link : Link := ⟨fun _ => true, fun _ _ => true, fun _ => [(1, .text message.compact)]⟩

/-- Where it is. -/
def access : Access := ⟨"ws://relay", "token", false⟩

theorem carries_message : Carries message.compact 1 message := by
  have hplain : message.Plain := Json.plain_record (by simp)
  exact carries_compact hplain rfl rfl

/-- The client once its first request is written. -/
def waiting (tx : Transaction) : Client :=
  ((Client.new.listen link).reopen.request).stepped (.write (requestText access 1 tx) true)

theorem moves_waiting (tx : Transaction) : Moves .new (waiting tx) :=
  .tail (.tail (.tail (moves_listen .new link) (.reopen _)) (.request _)) (.step _ _)

/-- As long as nothing waits, the client does not mind. -/
theorem listen_new : Client.new.listen link = Client.new.stepped .listen := by
  have hreceive : Client.new.receive (1, .text message.compact) = .new :=
    receive_eq_self rfl (fun _ _ _ => List.not_mem_nil) 1
  show (Client.new.receive (1, .text message.compact)).stepped .listen = _
  rw [hreceive]

theorem post_new (tx : Transaction) :
    runOn (post access link tx) .new = runOn (await link 1) (waiting tx) := by
  have hhost : Text.Uri.namesHost access.url = true := by decide +kernel
  have hvalue : Text.Uri.isHeaderValue access.token = true := by decide +kernel
  have hconnect (c : Client) : runOn (connect access link) c = (.ok (), c.reopen) := by
    rw [runOn_connect, hhost, hvalue]
    rfl
  have hwrite {c : Client} (text : String) (h : c.connected = true) :
      runOn (write link text) c = (.ok (), c.stepped (.write text true)) := by
    rw [runOn_write, h]
    rfl
  have hconnected : runOn (postConnected access link tx) (Client.new.listen link).reopen =
      runOn (await link 1) (waiting tx) := by
    unfold postConnected
    rw [runOn_bind_ok (runOn_get _), runOn_bind_ok (runOn_modify _ _), runOn_bind,
      runOn_tryCatch, hwrite _ rfl]
    unfold waiting
    rw [listen_new]
    rfl
  rw [post_eq, runOn_bind_ok (runOn_modify _ _), runOn_bind_ok (runOn_get _)]
  rw [← hconnected, listen_new]
  exact runOn_bind_ok (hconnect _) _

theorem answeredBy_message (tx : Transaction) : AnsweredBy access link tx .new message := by
  refine ⟨waiting tx, moves_waiting tx, ?_, ?_, post_new tx, ?_⟩
  · unfold waiting
    rw [listen_new]
    exact Inbox.mem_expect _ 1
  · exact List.mem_cons_self ..
  · exact ⟨[], _, [], rfl, nofun, carries_message⟩

end Relay.Silent

/-! ## Both channels -/

section Channels

open Relay

/-- When a submission is reported as accepted.  On the block engine's channel
    the answer said no error and a result, from which the identifier is
    taken, and neither of them is told as a missing result.  On the paid
    relay's channel the answer said no error: the signature is taken from its
    result where it has one, and where it has none the submission is reported
    as accepted all the same. -/
theorem acceptance_reported {pool : Relay.Pool} (hsound : pool.IsSound) :
    (∀ (peer : Http.Peer BlockEngine.Request) (address : String) (variant : BlockEngine.Variant)
      (past : List Transaction) (tx : Transaction) (submitted : Submitted),
      BlockEngine.submitter peer address variant past tx = .ok submitted ↔
        ∃ status body result value,
          peer (past.map (BlockEngine.request address variant))
            (BlockEngine.request address variant tx) = .reply status body ∧
          BlockEngine.Says body result .null ∧ result ≠ .null ∧
          Json.canonical? (Json.maxDepth - 1) result = some value ∧
          submitted = ⟨.blockEngine, BlockEngine.identifier value⟩) ∧
    (∀ (peer : Http.Peer BlockEngine.Request) (address : String) (variant : BlockEngine.Variant)
      (past : List Transaction) (tx : Transaction),
      BlockEngine.submitter peer address variant past tx = .error .missingResult ↔
        ∃ status body,
          peer (past.map (BlockEngine.request address variant))
            (BlockEngine.request address variant tx) = .reply status body ∧
          BlockEngine.Says body .null .null) ∧
    (∀ (access : Access) (past : List Transaction) (tx : Transaction) (submitted : Submitted),
      Pool.submitter access pool past tx = .ok submitted ↔
        ∃ worker rest message, pool.after access past = worker :: rest ∧
          AnsweredBy access worker.link tx worker.client message ∧
          said message "error" = .null ∧
          submitted = ⟨.paidRelay, signatureOf (said message "result")⟩) ∧
    (∀ (access : Access) (past : List Transaction) (tx : Transaction) (worker : Worker)
      (rest : Pool) (message : Json), pool.after access past = worker :: rest →
      AnsweredBy access worker.link tx worker.client message →
      said message "error" = .null → said message "result" = .null →
      Pool.submitter access pool past tx = .ok ⟨.paidRelay, "null"⟩) := by
  have hpaid : ∀ (access : Access) (past : List Transaction) (tx : Transaction)
      (submitted : Submitted), Pool.submitter access pool past tx = .ok submitted ↔ _ :=
    fun access past _ _ => Pool.post_eq_ok (hsound.after access past)
  refine ⟨fun _ _ _ _ _ _ => BlockEngine.readAnswer_eq_ok,
    fun _ _ _ _ _ => BlockEngine.readAnswer_eq_missing, hpaid, ?_⟩
  intro access past tx worker rest message hpool hmessage herror hresult
  rw [hpaid]
  exact ⟨worker, rest, message, hpool, hmessage, herror, by rw [hresult, signatureOf_null]⟩

/-- A relay that answers with a number and nothing else is taken to have
    accepted. -/
theorem acceptance_reported_silent :
    let pool : Pool := [⟨Silent.link, .new⟩]
    let tx : Transaction := ⟨[], []⟩
    pool.IsSound ∧ AnsweredBy Silent.access Silent.link tx .new Silent.message ∧
      said Silent.message "error" = .null ∧ said Silent.message "result" = .null ∧
      Pool.submitter Silent.access pool [] tx = .ok ⟨.paidRelay, "null"⟩ := by
  intro pool tx
  have hsound : pool.IsSound := by
    intro worker hworker
    obtain rfl := List.mem_singleton.1 hworker
    exact Client.Reachable.isSound .refl
  have hanswered := Silent.answeredBy_message tx
  have herror : said Silent.message "error" = .null := rfl
  have hresult : said Silent.message "result" = .null := rfl
  obtain ⟨-, -, -, hnull⟩ := acceptance_reported hsound
  exact ⟨hsound, hanswered, herror, hresult,
    hnull Silent.access [] tx ⟨Silent.link, .new⟩ [] Silent.message rfl hanswered herror hresult⟩

end Channels

end PoolWatch
