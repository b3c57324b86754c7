import PoolWatch.Proofs.Relay.Moves
import PoolWatch.Proofs.Run

/-! # Requests and their answers

    Sending a transaction is a run of the client that either ends on the way
    or waits, under a number of its own, for the first frame that carries
    this number.  What the relay says of one request cannot be taken for an
    answer to another, however late it comes. -/

namespace PoolWatch.Relay

/-! ## On the wire -/

section Sending

open Client

variable {c c' : Client} {id : Nat} {access : Access} {link : Link} {text : String}

theorem runOn_connect (access : Access) (link : Link) (c : Client) :
    runOn (connect access link) c =
      if !Text.Uri.namesHost access.url then (.error (.relay .badAddress), c)
      else if !Text.Uri.isHeaderValue access.token then (.error (.relay .badToken), c)
      else if link.accepts c.steps then (.ok (), c.reopen)
      else (.error (.relay .unreachable), c.stepped (.connect false)) := by
  unfold connect
  cases Text.Uri.namesHost access.url with
  | false => rfl
  | true =>
    cases Text.Uri.isHeaderValue access.token with
    | false => rfl
    | true =>
      show runOn (get >>= fun _ => _) c = _
      rw [runOn_bind_ok (runOn_get c)]
      cases link.accepts c.steps <;> rfl

theorem moves_connect (access : Access) (link : Link) (c : Client) :
    Moves c (runOn (connect access link) c).2 := by
  rw [runOn_connect]
  split
  · exact .refl
  split
  · exact .refl
  split
  · exact .single (.reopen c)
  · exact .single (.step c _)

theorem runOn_write (link : Link) (text : String) (c : Client) :
    runOn (write link text) c =
      if !c.connected then (.error (.relay .disconnected), c)
      else if link.writes c.steps text then (.ok (), c.stepped (.write text true))
      else (.error (.relay .sendFailed), c.stepped (.write text false)) := by
  unfold write
  rw [runOn_bind_ok (runOn_get c)]
  cases c.connected with
  | false => rfl
  | true => cases link.writes c.steps text <;> rfl

/-- What an operation on the wire does: the inbox and the numbers are left as
    they are, and it is refused only for a fault of the way. -/
structure OnWire (c : Client) (r : Except SubmitError Unit × Client) : Prop where
  moves : Moves c r.2
  inbox : r.2.inbox = c.inbox
  nextId : r.2.nextId = c.nextId
  fault : ∀ e, r.1 = .error e → ∃ f, e = .relay f

theorem onWire_refused (c : Client) (f : RelayFault) : OnWire c (.error (.relay f), c) where
  moves := .refl
  inbox := rfl
  nextId := rfl
  fault _ h := ⟨f, (Except.error.inj h).symm⟩

theorem onWire_failed (c : Client) (s : Step) (f : RelayFault) :
    OnWire c (.error (.relay f), c.stepped s) where
  moves := .single (.step c s)
  inbox := rfl
  nextId := rfl
  fault _ h := ⟨f, (Except.error.inj h).symm⟩

theorem connect_onWire (access : Access) (link : Link) (c : Client) :
    OnWire c (runOn (connect access link) c) := by
  rw [runOn_connect]
  split
  · exact onWire_refused c _
  split
  · exact onWire_refused c _
  split
  · exact ⟨.single (.reopen c), rfl, rfl, nofun⟩
  · exact onWire_failed c _ _

theorem write_onWire (link : Link) (text : String) (c : Client) :
    OnWire c (runOn (write link text) c) := by
  rw [runOn_write]
  split
  · exact onWire_refused c _
  split
  · exact ⟨.single (.step c _), rfl, rfl, nofun⟩
  · exact onWire_failed c _ _

/-- What was written is remembered. -/
theorem mem_steps_of_write (h : runOn (write link text) c = (.ok (), c')) :
    .write text true ∈ c'.steps := by
  rw [runOn_write] at h
  split at h
  · cases h
  split at h
  · cases h
    exact List.mem_cons_self ..
  · cases h

theorem OnWire.trans {r : Except SubmitError Unit × Client} (h : OnWire c (.ok (), c'))
    (h' : OnWire c' r) : OnWire c r where
  moves := .trans h.moves h'.moves
  inbox := h'.inbox.trans h.inbox
  nextId := h'.nextId.trans h.nextId
  fault := h'.fault

/-- A text that is written over a new connection. -/
theorem connect_write_onWire (access : Access) (link : Link) (text : String) (c : Client) :
    OnWire c (runOn (connect access link >>= fun _ => write link text) c) := by
  have hconnect := connect_onWire access link c
  rw [runOn_bind]
  rcases hends : runOn (connect access link) c with ⟨e | _, c'⟩
  · rw [hends] at hconnect
    exact hconnect
  · rw [hends] at hconnect
    exact hconnect.trans (write_onWire link text c')

/-- A text is sent once more over a new connection, its number waiting anew.
    A failure is caught only to give the number up. -/
theorem runOn_resend (access : Access) (link : Link) (id : Nat) (text : String) (c : Client) :
    runOn (resend access link id text) c =
      match runOn (connect access link >>= fun _ => write link text) (c.renew id) with
      | (.ok a, c') => (.ok a, c')
      | (.error e, c') => (.error e, c'.giveUp id) := by
  unfold resend
  rw [runOn_bind_ok (runOn_modify _ c)]
  show runOn (tryCatch _ _) (c.renew id) = _
  rw [runOn_tryCatch]
  rcases runOn (connect access link >>= fun _ => write link text) (c.renew id) with ⟨_ | _, _⟩
  · rfl
  · rfl

/-- Sending a text once more ends on the way, with its number given up, or
    with the number waiting and the text written. -/
theorem resend_ends (hid : id < c.nextId) (access : Access) (link : Link) (text : String) :
    (∃ f c', runOn (resend access link id text) c = (.error (.relay f), c') ∧ Moves c c') ∨
    (∃ c', runOn (resend access link id text) c = (.ok (), c') ∧ Moves c c' ∧
      id ∈ c'.inbox.pending ∧ .write text true ∈ c'.steps) := by
  have hwire := connect_write_onWire access link text (c.renew id)
  rw [runOn_resend]
  rcases hends : runOn (connect access link >>= fun _ => write link text) (c.renew id)
    with ⟨e | _, c'⟩
  · rw [hends] at hwire
    obtain ⟨f, rfl⟩ := hwire.fault e rfl
    have hmoves : Moves c (c'.giveUp id) := .tail (.head (.renew hid) hwire.moves) (.giveUp c' id)
    exact .inl ⟨f, c'.giveUp id, rfl, hmoves⟩
  · rw [hends] at hwire
    obtain ⟨_, c₁, -, hwrite⟩ := runOn_bind_eq_ok hends
    refine .inr ⟨c', rfl, .head (.renew hid) hwire.moves, ?_, mem_steps_of_write hwrite⟩
    rw [hwire.inbox]
    exact Inbox.mem_expect _ id

/-! ## Waiting -/

/-- What a caller is told, given the answer to its request if one came. -/
def outcome : Option Reply → Except SubmitError String
  | some (.ok result) => .ok (signatureOf result)
  | some (.error text) => .error (.rejected text)
  | none => .error .timeout

theorem runOn_await (link : Link) (id : Nat) (c : Client) :
    runOn (await link id) c =
      (outcome ((c.listen link).inbox.answer? id), (c.listen link).giveUp id) := by
  unfold await
  rw [runOn_bind_ok (runOn_modifyGet _ c), runOn_bind_ok (runOn_set _ _)]
  rcases (c.listen link).inbox.answer? id with _ | text | result <;> rfl

theorem listen_inbox (link : Link) (c : Client) :
    (c.listen link).inbox = (c.hear (link.arrivals c.steps)).inbox := rfl

/-- Whoever waits is told what the first frame says that tells its number
    anything. -/
theorem runOn_await_of_mem (hsound : c.IsSound) (hwaits : id ∈ c.inbox.pending) (link : Link) :
    runOn (await link id) c =
      (outcome (c.told (link.arrivals c.steps) id), (c.listen link).giveUp id) := by
  have hreplies := (Inbox.takeAll_of_mem hsound.inbox hwaits (c.events (link.arrivals c.steps))).1
  rw [runOn_await, Inbox.answer?_eq, listen_inbox, hear_inbox, hreplies]
  unfold told
  rw [Option.head?_toList]

/-- How sending a transaction ends: on the way, or with what was told to its
    number, which waited when the request had been written. -/
inductive Posted (access : Access) (link : Link) (tx : Transaction) (c : Client) :
    Except SubmitError String × Client → Prop where
  | refused (f : RelayFault) {c' : Client} (moves : Moves c c') :
      Posted access link tx c (.error (.relay f), c')
  | waited {c' : Client} (moves : Moves c c') (waits : c.nextId ∈ c'.inbox.pending)
      (written : .write (requestText access c.nextId tx) true ∈ c'.steps) :
      Posted access link tx c
        (outcome (c'.told (link.arrivals c'.steps) c.nextId), (c'.listen link).giveUp c.nextId)

/-- A written request ends by waiting for its number. -/
theorem posted_of_waiting {tx : Transaction} (hsound : c.IsSound) (hmoves : Moves c c')
    (hwaits : c.nextId ∈ c'.inbox.pending)
    (hwritten : .write (requestText access c.nextId tx) true ∈ c'.steps) :
    Posted access link tx c (runOn (await link c.nextId) c') := by
  have hsound' := (hmoves.keeps hsound).1
  rw [runOn_await_of_mem hsound' hwaits]
  exact .waited hmoves hwaits hwritten

/-- What sending is once the client is connected: the request takes its
    number, is written, if need be a second time, and waits. -/
def postConnected (access : Access) (link : Link) (tx : Transaction) : ClientM String := do
  let id := (← get).nextId
  modify Client.request
  let text := requestText access id tx
  try
    write link text
  catch _ =>
    resend access link id text
  await link id

theorem post_eq (access : Access) (link : Link) (tx : Transaction) :
    post access link tx = (do
      modify (Client.listen link)
      if !(← get).connected then
        connect access link
      postConnected access link tx) := rfl

theorem postConnected_posted (access : Access) (link : Link) (tx : Transaction) {c₀ : Client}
    (hsound : c₀.IsSound) (hmoves : Moves c₀ c) (hnext : c.nextId = c₀.nextId) :
    Posted access link tx c₀ (runOn (postConnected access link tx) c) := by
  have hrequested : Moves c₀ c.request := .tail hmoves (.request c)
  unfold postConnected
  rw [runOn_bind_ok (runOn_get c), runOn_bind_ok (runOn_modify _ c), hnext]
  have hwire := write_onWire link (requestText access c₀.nextId tx) c.request
  rw [runOn_bind, runOn_tryCatch]
  rcases hwrite : runOn (write link (requestText access c₀.nextId tx)) c.request with ⟨e | _, c'⟩
  · -- the first attempt failed: the number is given out, so it may wait anew
    rw [hwrite] at hwire
    have hmoves' : Moves c₀ c' := .trans hrequested hwire.moves
    have hid : c₀.nextId < c'.nextId := by
      rw [hwire.nextId]
      show c₀.nextId < c.nextId + 1
      omega
    rcases resend_ends hid access link (requestText access c₀.nextId tx) with
      ⟨f, c'', hresend, hmoves''⟩ | ⟨c'', hresend, hmoves'', hwaits, hwritten⟩
    · simp only [hresend]
      exact .refused f (.trans hmoves' hmoves'')
    · simp only [hresend]
      exact posted_of_waiting hsound (.trans hmoves' hmoves'') hwaits hwritten
  · -- writing leaves the inbox alone, so the number waits as it did before
    rw [hwrite] at hwire
    refine posted_of_waiting hsound (.trans hrequested hwire.moves) ?_ (mem_steps_of_write hwrite)
    rw [hwire.inbox, ← hnext]
    exact Inbox.mem_expect _ _

/-- Every transaction that is sent ends in one of the two ways. -/
theorem post_posted (hsound : c.IsSound) (access : Access) (link : Link) (tx : Transaction) :
    Posted access link tx c (runOn (post access link tx) c) := by
  have hlistened : Moves c (c.listen link) := moves_listen c link
  have hnext : (c.listen link).nextId = c.nextId := (hear_keeps c _).1
  rw [post_eq, runOn_bind_ok (runOn_modify _ c), runOn_bind_ok (runOn_get _)]
  cases (c.listen link).connected with
  | true => exact postConnected_posted access link tx hsound hlistened hnext
  | false =>
    have hwire := connect_onWire access link (c.listen link)
    show Posted access link tx c (runOn (connect access link >>= fun _ =>
      postConnected access link tx) (c.listen link))
    rcases hconnect : runOn (connect access link) (c.listen link) with ⟨e | _, c'⟩
    · rw [hconnect] at hwire
      obtain ⟨f, rfl⟩ := hwire.fault e rfl
      rw [runOn_bind_error hconnect]
      exact .refused f (.trans hlistened hwire.moves)
    · rw [hconnect] at hwire
      rw [runOn_bind_ok hconnect]
      exact postConnected_posted access link tx hsound (.trans hlistened hwire.moves)
        (hwire.nextId.trans hnext)

theorem Posted.moves {tx : Transaction} {r : Except SubmitError String × Client}
    (h : Posted access link tx c r) : Moves c r.2 := by
  cases h with
  | refused f moves => exact moves
  | waited moves _ _ => exact .tail (.trans moves (moves_listen _ link)) (.giveUp _ _)

/-! ## Answers reach their own request -/

/-- Whatever waits and whatever arrives: a number that waits is answered at
    most once, by the first frame that carries it, and fails with the end of
    the connection otherwise; a frame that carries no number that waits
    changes nothing.  A number that is given out later is a new one, to
    which an answer of the earlier one says nothing.  All of it goes on
    holding when transactions are sent, and the caller is told what was told
    to the number of its request. -/
theorem answers_reach_their_request (hsound : c.IsSound) :
    (∀ (text : String) (id : Nat) (reply : Reply),
      Inbox.Event.tells id (.message text) = some reply ↔
        ∃ message, Carries text id message ∧
          ((said message "error" = .null ∧ reply = .ok (said message "result")) ∨
            (said message "error" ≠ .null ∧ reply = .error (said message "error").compact))) ∧
    (∀ (arrivals : List (Nat × Frame)), ∀ id ∈ c.inbox.pending,
      (c.hear arrivals).inbox.replies id = (c.told arrivals id).toList ∧
      (id ∈ (c.hear arrivals).inbox.pending ↔ c.told arrivals id = none) ∧
      (c.hear arrivals).disconnect.inbox.replies id =
        [(c.told arrivals id).getD (.error Inbox.disconnectedText)]) ∧
    (∀ (arrivals : List (Nat × Frame)), ∀ id ∉ c.inbox.pending,
      (c.hear arrivals).inbox.replies id = c.inbox.replies id ∧
      id ∉ (c.hear arrivals).inbox.pending ∧
      (c.hear arrivals).disconnect.inbox.replies id = c.inbox.replies id) ∧
    (∀ arrivals : List (Nat × Frame), (c.hear arrivals).disconnect.inbox.pending = []) ∧
    (∀ (connection : Nat) (frame : Frame) (text : String), frame.text? = some text →
      (∀ id reply, readMessage text = some (id, reply) → id ∉ c.inbox.pending) →
      c.receive (connection, frame) = c) ∧
    (∀ later, Moves c.request later →
      c.nextId < later.nextId ∧ later.nextId ∉ later.inbox.pending ∧
      later.inbox.replies later.nextId = [] ∧
      ∀ (latest : Client) (connection : Nat) (frame : Frame) (text : String) (reply : Reply),
        frame.text? = some text → readMessage text = some (c.nextId, reply) →
        (latest.receive (connection, frame)).inbox.replies later.nextId =
          latest.inbox.replies later.nextId ∧
        (later.nextId ∈ (latest.receive (connection, frame)).inbox.pending ↔
          later.nextId ∈ latest.inbox.pending)) ∧
    (∀ (access : Access) (link : Link) (tx : Transaction),
      Posted access link tx c (runOn (post access link tx) c) ∧
      (runOn (post access link tx) c).2.IsSound) := by
  refine ⟨fun text id reply => by simp only [Inbox.Event.tells_message, replyOf_eq_iff],
    fun arrivals id hwaits => hear_of_mem hsound hwaits arrivals,
    fun arrivals id hout => hear_of_not_mem hout arrivals, fun _ => rfl,
    fun connection frame text htext hnone => receive_eq_self htext hnone connection, ?_, ?_⟩
  · intro later hlater
    -- the request took a number, and no move gives it back
    obtain ⟨hsound', hle⟩ := hlater.keeps hsound.request
    have hlt : c.nextId < later.nextId := hle
    obtain ⟨hout, hreplies⟩ := hsound'.fresh
    refine ⟨hlt, hout, hreplies, ?_⟩
    intro latest connection frame text reply htext hread
    exact receive_ne htext hread (Nat.ne_of_lt hlt) latest connection
  · intro access link tx
    have hposted := post_posted hsound access link tx
    exact ⟨hposted, (hposted.moves.keeps hsound).1⟩

/-- Of two numbers that wait, the second is answered though a damaged message
    and one for nobody come first, and stays as it was answered.  The first
    one waits for the end. -/
theorem answers_reach_their_request_two :
    Client.new.request.request.IsSound ∧
    let stray : Json := .record [("id", .nat 9), ("result", .nat 1)]
    let refusal : Json := .record [("error", .text "no"), ("id", .nat 2)]
    let late : Json := .record [("id", .nat 2), ("result", .bool true)]
    let heard := Client.new.request.request.hear
      [(1, .text "\x7b"), (1, .text stray.compact),
        (1, .binary (Text.Utf8.encode refusal.compact)), (1, .text late.compact)]
    heard.inbox.replies 2 = [.error "\"no\""] ∧ 1 ∈ heard.inbox.pending ∧
      heard.disconnect.inbox.replies 1 = [.error "relay disconnected"] := by
  have hreachable : Reachable Client.new.request.request :=
    .tail (.single (.request .new)) (.request _)
  have hsound : Client.new.request.request.IsSound := hreachable.isSound
  refine ⟨hsound, ?_⟩
  intro stray refusal late heard
  have hstrayPlain : stray.Plain := Json.plain_record (by simp)
  have hrefusalPlain : refusal.Plain := Json.plain_record (by simp)
  have hlatePlain : late.Plain := Json.plain_record (by simp [Json.Plain])
  have hdamaged : readMessage "\x7b" = none := rfl
  have hstray : readMessage stray.compact = some (9, .ok (.nat 1)) :=
    readMessage_eq_some.2 ⟨stray, carries_compact hstrayPlain rfl rfl, rfl⟩
  have hrefusal : readMessage refusal.compact = some (2, .error "\"no\"") :=
    readMessage_eq_some.2 ⟨refusal, carries_compact hrefusalPlain rfl rfl, rfl⟩
  have hlate : readMessage late.compact = some (2, .ok (.bool true)) :=
    readMessage_eq_some.2 ⟨late, carries_compact hlatePlain rfl rfl, rfl⟩
  have hdecode := Text.Utf8.decode_encode refusal.compact
  obtain ⟨-, hwaiting, -⟩ := answers_reach_their_request hsound
  obtain ⟨hreplies, -, -⟩ := hwaiting _ 2 (by decide)
  obtain ⟨-, hpending, hended⟩ := hwaiting _ 1 (by decide)
  refine ⟨hreplies.trans ?_, hpending.2 ?_, hended.trans ?_⟩ <;>
    simp [told, events, Frame.event?, Inbox.Event.tells, hdamaged, hstray, hrefusal, hlate, hdecode,
      Inbox.disconnectedText]

end Sending

end PoolWatch.Relay
