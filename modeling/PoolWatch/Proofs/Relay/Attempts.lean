import PoolWatch.Proofs.Relay.Requests

/-! # Attempts at a request

    A call that gets past connecting takes a number of its own and tries to
    write its request.  It tries once more, with the same text, when the first
    write failed and a new connection was opened; whatever comes of that, it
    does not try again, and its number does not wait any longer when it
    returns.

    The steps of a client are the record of this.  `postConnected_sent` says
    which steps one call adds, and `requests_sent_once` what follows for all
    calls of a client together. -/

namespace PoolWatch.Relay

open Client

/-! ## Steps -/

namespace Step

/-- An attempt to write. -/
def isWrite : Step → Bool
  | write .. => true
  | _ => false

/-- Neither an attempt to write nor one to connect. -/
def isQuiet : Step → Bool
  | pong _ => true
  | listen => true
  | _ => false

theorem isWrite_of_isQuiet {s : Step} (h : s.isQuiet = true) : s.isWrite = false := by
  cases s with
  | pong _ | listen => rfl
  | connect _ | write _ _ => cases h

end Step

/-- What an operation on the way of a request did: the steps that it took, the
    newest first.  It gave out no number, and nothing began to wait. -/
structure Took (c : Client) (taken : List Step) (c' : Client) : Prop where
  moves : Moves c c'
  steps : c'.steps = taken ++ c.steps
  nextId : c'.nextId = c.nextId
  pending : c'.inbox.pending ⊆ c.inbox.pending

section Took

variable {c c' c'' : Client} {taken taken' : List Step}

theorem Took.refl (c : Client) : Took c [] c := ⟨.refl, rfl, rfl, fun _ h => h⟩

theorem Took.trans (h : Took c taken c') (h' : Took c' taken' c'') :
    Took c (taken' ++ taken) c'' where
  moves := .trans h.moves h'.moves
  steps := by rw [h'.steps, h.steps, List.append_assoc]
  nextId := h'.nextId.trans h.nextId
  pending := List.Subset.trans h'.pending h.pending

theorem took_step (c : Client) (s : Step) : Took c [s] (c.stepped s) :=
  ⟨.single (.step c s), rfl, rfl, fun _ h => h⟩

theorem took_reopen (c : Client) : Took c [.connect true] c.reopen :=
  ⟨.single (.reopen c), rfl, rfl, fun _ h => h⟩

/-- A number that waits anew is all that waits after a reconnect. -/
theorem took_renew {id : Nat} (hid : id < c.nextId) (hwaits : id ∈ c.inbox.pending) :
    Took c [] (c.renew id) := by
  refine ⟨.single (.renew hid), rfl, rfl, ?_⟩
  intro other hother
  have honly : other = id := by simpa [renew, disconnect, Inbox.disconnect, Inbox.forget,
    Inbox.expect] using hother
  exact honly ▸ hwaits

theorem OnWire.took {r : Except SubmitError Unit × Client} (h : OnWire c r)
    (hsteps : r.2.steps = taken ++ c.steps) : Took c taken r.2 where
  moves := h.moves
  steps := hsteps
  nextId := h.nextId
  pending := h.inbox ▸ List.Subset.refl _

theorem receive_steps (c : Client) (a : Nat × Frame) :
    ∃ quiet, (∀ s ∈ quiet, s.isQuiet = true) ∧ (c.receive a).steps = quiet ++ c.steps := by
  obtain ⟨connection, frame⟩ := a
  cases frame with
  | text | binary => exact ⟨[], nofun, rfl⟩
  | ping data =>
    -- a ping is answered while the client is connected
    show ∃ quiet, _ ∧ (if c.connected then c.stepped (.pong data) else c).steps = quiet ++ c.steps
    split
    · exact ⟨[.pong data], by simp [Step.isQuiet], rfl⟩
    · exact ⟨[], nofun, rfl⟩
  | close | lost =>
    refine ⟨[], nofun, ?_⟩
    show (if connection = c.opened then c.disconnect else c).steps = c.steps
    split <;> rfl

theorem took_hear (c : Client) (arrivals : List (Nat × Frame)) :
    ∃ quiet, (∀ s ∈ quiet, s.isQuiet = true) ∧ Took c quiet (c.hear arrivals) := by
  induction arrivals generalizing c with
  | nil => exact ⟨[], nofun, .refl c⟩
  | cons a rest ih =>
    obtain ⟨quiet, hquiet, hsteps⟩ := receive_steps c a
    have hfirst : Took c quiet (c.receive a) := by
      refine ⟨.single (.receive c a), hsteps, (receive_keeps c a).1, ?_⟩
      rw [receive_inbox]
      cases a.2.event? (a.1 = c.opened) with
      | none => exact fun _ h => h
      | some e => exact (take_bounds e).1
    obtain ⟨quiet', hquiet', hrest⟩ := ih (c.receive a)
    refine ⟨quiet' ++ quiet, fun s hs => ?_, hfirst.trans hrest⟩
    rcases List.mem_append.1 hs with hs | hs
    · exact hquiet' s hs
    · exact hquiet s hs

/-- Listening is quiet. -/
theorem took_listen (link : Link) (c : Client) :
    ∃ quiet, (∀ s ∈ quiet, s.isQuiet = true) ∧ Took c quiet (c.listen link) := by
  obtain ⟨quiet, hquiet, htook⟩ := took_hear c (link.arrivals c.steps)
  refine ⟨.listen :: quiet, fun s hs => ?_, htook.trans (took_step _ _)⟩
  rcases List.mem_cons.1 hs with rfl | hs
  · rfl
  · exact hquiet s hs

end Took

/-! ## Connecting -/

/-- What a call does about the connection before its request is numbered. -/
def reach (access : Access) (link : Link) : ClientM Unit := do
  modify (Client.listen link)
  if !(← get).connected then
    connect access link

theorem post_eq_reach (access : Access) (link : Link) (tx : Transaction) :
    post access link tx = (do
      reach access link
      postConnected access link tx) := by
  rw [post_eq]
  unfold reach
  rw [bind_assoc]
  refine bind_congr fun _ => ?_
  rw [bind_assoc]
  refine bind_congr fun c => ?_
  cases c.connected <;> rfl

/-- How connecting ends: with a fault, or with the client connected.  Nothing
    is written on the way. -/
inductive Reached (c : Client) : Except SubmitError Unit × Client → Prop where
  | refused (f : RelayFault) {taken : List Step} {c' : Client} (took : Took c taken c')
      (unwritten : ∀ s ∈ taken, s.isWrite = false) : Reached c (.error (.relay f), c')
  | connected {taken : List Step} {c' : Client} (took : Took c taken c')
      (unwritten : ∀ s ∈ taken, s.isWrite = false) (connected : c'.connected = true) :
      Reached c (.ok (), c')

theorem reach_reached (access : Access) (link : Link) (c : Client) :
    Reached c (runOn (reach access link) c) := by
  obtain ⟨quiet, hquiet, htook⟩ := took_listen link c
  have hunwritten : ∀ s ∈ quiet, s.isWrite = false := fun s hs =>
    Step.isWrite_of_isQuiet (hquiet s hs)
  have hmore : ∀ b, ∀ s ∈ [Step.connect b] ++ quiet, s.isWrite = false := by
    intro b s hs
    rcases List.mem_cons.1 hs with rfl | hs
    · rfl
    · exact hunwritten s hs
  unfold reach
  rw [runOn_bind_ok (runOn_modify _ c), runOn_bind_ok (runOn_get _)]
  cases hconnected : (c.listen link).connected with
  | true => exact .connected htook hunwritten hconnected
  | false =>
    show Reached c (runOn (connect access link) (c.listen link))
    rw [runOn_connect]
    split
    · exact .refused _ htook hunwritten
    split
    · exact .refused _ htook hunwritten
    split
    · exact .connected (htook.trans (took_reopen _)) (hmore true) rfl
    · exact .refused _ (htook.trans (took_step _ _)) (hmore false)

/-! ## Writing -/

/-- The steps of the attempts at a request, the newest first. -/
inductive Attempts (text : String) : List Step → Prop where
  | written : Attempts text [.write text true]
  | cutOff : Attempts text [.write text false]
  | unreachable : Attempts text [.connect false, .write text false]
  | again (accepted : Bool) :
      Attempts text [.write text accepted, .connect true, .write text false]

section Attempts

variable {text : String} {attempts : List Step}

theorem Attempts.text_eq (h : Attempts text attempts) {written : String} {accepted : Bool}
    (hmem : .write written accepted ∈ attempts) : written = text := by
  cases h with
  | written | cutOff | unreachable | again =>
    simp only [List.mem_cons, Step.write.injEq, reduceCtorEq, List.not_mem_nil] at hmem
    tauto

/-- At most two attempts, of which at most one succeeds. -/
theorem Attempts.count_le (h : Attempts text attempts) :
    attempts.count (.write text true) ≤ 1 ∧
      attempts.count (.write text true) + attempts.count (.write text false) ≤ 2 := by
  cases h with
  | written | cutOff | unreachable => simp
  | again accepted => cases accepted <;> simp

end Attempts

/-- How a call ends that got past connecting: it took a number, made its
    attempts, and listened if the request was written.  When it gives its
    number up, the number waits only if the call was refused or timed out. -/
inductive Sent (text : String) (c : Client) : Except SubmitError String × Client → Prop where
  | ended {answer : Except SubmitError String} {c' : Client} {attempts quiet : List Step}
      (attempted : Attempts text attempts) (quietly : ∀ s ∈ quiet, s.isQuiet = true)
      (took : Took c.request (quiet ++ attempts) c')
      (waits : c.nextId ∈ c'.inbox.pending →
        answer = .error .timeout ∨ ∃ f, answer = .error (.relay f)) :
      Sent text c (answer, c'.giveUp c.nextId)

section Sent

variable {c c' : Client} {access : Access} {link : Link} {text : String} {attempts : List Step}

theorem sent_of_refused (hattempted : Attempts text attempts) (htook : Took c.request attempts c')
    (f : RelayFault) : Sent text c (.error (.relay f), c'.giveUp c.nextId) := by
  have hquiet : ∀ s ∈ ([] : List Step), s.isQuiet = true := nofun
  exact .ended hattempted hquiet htook fun _ => .inr ⟨f, rfl⟩

/-- A request that was written is waited for, and an answer takes its number
    off the list. -/
theorem sent_of_written (hsound : c.IsSound) (hattempted : Attempts text attempts)
    (htook : Took c.request attempts c') (hwaits : c.nextId ∈ c'.inbox.pending) (link : Link) :
    Sent text c (runOn (await link c.nextId) c') := by
  have hsound' : c'.IsSound := (htook.moves.keeps hsound.request).1
  obtain ⟨quiet, hquiet, hlistened⟩ := took_listen link c'
  rw [runOn_await_of_mem hsound' hwaits]
  refine .ended hattempted hquiet (htook.trans hlistened) fun hstill => .inl ?_
  have hnone := (hear_of_mem hsound' hwaits (link.arrivals c'.steps)).2.1.1 hstill
  rw [hnone]
  rfl

/-- The steps of a second attempt, after a first one that failed. -/
theorem connect_write_attempts (access : Access) (link : Link) (text : String) (c : Client) :
    ∃ taken, (runOn (connect access link >>= fun _ => write link text) c).2.steps =
        taken ++ c.steps ∧ Attempts text (taken ++ [.write text false]) := by
  rw [runOn_bind, runOn_connect]
  cases Text.Uri.namesHost access.url with
  | false => exact ⟨[], rfl, .cutOff⟩
  | true =>
    cases Text.Uri.isHeaderValue access.token with
    | false => exact ⟨[], rfl, .cutOff⟩
    | true =>
      cases link.accepts c.steps with
      | false => exact ⟨[.connect false], rfl, .unreachable⟩
      | true =>
        -- the connection is open, so the text is at least tried
        show ∃ taken, (runOn (write link text) c.reopen).2.steps = taken ++ c.steps ∧ _
        rw [runOn_write]
        cases link.writes c.reopen.steps text with
        | true => exact ⟨[.write text true, .connect true], rfl, .again true⟩
        | false => exact ⟨[.write text false, .connect true], rfl, .again false⟩

/-- A request that could not be written is written once more over a new
    connection, if that can be opened. -/
theorem resend_sent (hsound : c.IsSound) (access : Access) (link : Link) (text : String) :
    Sent text c (runOn (resend access link c.nextId text >>= fun _ => await link c.nextId)
      (c.request.stepped (.write text false))) := by
  have hid : c.nextId < (c.request.stepped (.write text false)).nextId := Nat.lt_succ_self _
  have hrenewed : Took c.request [.write text false]
      ((c.request.stepped (.write text false)).renew c.nextId) :=
    (took_step _ _).trans (took_renew hid (Inbox.mem_expect _ _))
  have hwaits : c.nextId ∈
      ((c.request.stepped (.write text false)).renew c.nextId).inbox.pending :=
    Inbox.mem_expect _ _
  rw [runOn_bind, runOn_resend]
  generalize (c.request.stepped (.write text false)).renew c.nextId = renewed at hrenewed hwaits ⊢
  have hwire := connect_write_onWire access link text renewed
  obtain ⟨taken, hsteps, hattempts⟩ := connect_write_attempts access link text renewed
  have htook := hrenewed.trans (hwire.took hsteps)
  rcases hends : runOn (connect access link >>= fun _ => write link text) renewed
    with ⟨e | _, c'⟩ <;> rw [hends] at hwire htook
  · obtain ⟨f, rfl⟩ := hwire.fault e rfl
    exact sent_of_refused hattempts htook f
  · exact sent_of_written hsound hattempts htook (hwire.inbox ▸ hwaits) link

/-- A call that got past connecting makes its attempts, and gives its number
    up in the end. -/
theorem postConnected_sent (hsound : c.IsSound) (hconnected : c.connected = true)
    (access : Access) (link : Link) (tx : Transaction) :
    Sent (requestText access c.nextId tx) c (runOn (postConnected access link tx) c) := by
  have hopen : (!c.request.connected) = false := by
    show (!c.connected) = false
    rw [hconnected]
    rfl
  have hwrite := runOn_write link (requestText access c.nextId tx) c.request
  rw [hopen] at hwrite
  unfold postConnected
  rw [runOn_bind_ok (runOn_get c), runOn_bind_ok (runOn_modify _ c)]
  show Sent _ c (runOn (tryCatch _ _ >>= _) c.request)
  rw [runOn_bind, runOn_tryCatch, hwrite]
  by_cases hwrites : link.writes c.request.steps (requestText access c.nextId tx)
  · simp only [if_pos hwrites]
    exact sent_of_written hsound .written (took_step _ _) (Inbox.mem_expect _ _) link
  · have hresent := resend_sent hsound access link (requestText access c.nextId tx)
    rw [runOn_bind] at hresent
    simp only [if_neg hwrites]
    exact hresent

end Sent

/-! ## Calls -/

/-- A call gets past connecting. -/
def GetsThrough (access : Access) (link : Link) (c : Client) : Prop :=
  (runOn (reach access link) c).1 = .ok ()

/-- Over a network that takes everything, the first call gets through. -/
example : GetsThrough ⟨"wss://relay", "", false⟩ ⟨fun _ => true, fun _ _ => true, fun _ => []⟩
    .new := by
  rfl

/-- How a call ends: short of a connection, with nothing written and no number
    given out, or with its request sent. -/
inductive Called (access : Access) (link : Link) (tx : Transaction) (c : Client) :
    Except SubmitError String × Client → Prop where
  | stopped (f : RelayFault) {taken : List Step} {c' : Client} (short : ¬ GetsThrough access link c)
      (took : Took c taken c') (unwritten : ∀ s ∈ taken, s.isWrite = false) :
      Called access link tx c (.error (.relay f), c')
  | sent {taken : List Step} {reached : Client} {r : Except SubmitError String × Client}
      (through : GetsThrough access link c) (took : Took c taken reached)
      (unwritten : ∀ s ∈ taken, s.isWrite = false)
      (sent : Sent (requestText access c.nextId tx) reached r) : Called access link tx c r

/-- Between its calls, a client is sound and nothing waits. -/
structure Settled (c : Client) : Prop where
  sound : c.IsSound
  idle : c.inbox.pending = []

theorem settled_new : Settled .new := ⟨isSound_new, rfl⟩

section Called

variable {access : Access} {link : Link} {tx : Transaction} {c : Client}
  {r : Except SubmitError String × Client}

theorem post_called (hsound : c.IsSound) (access : Access) (link : Link) (tx : Transaction) :
    Called access link tx c (runOn (post access link tx) c) := by
  have hreached := reach_reached access link c
  rw [post_eq_reach]
  rcases hreach : runOn (reach access link) c with ⟨e | a, c'⟩ <;> rw [hreach] at hreached
  · cases hreached with
    | refused f took unwritten =>
      rw [runOn_bind_error hreach]
      exact .stopped f (by rw [GetsThrough, hreach]; exact nofun) took unwritten
  · cases hreached with
    | connected took unwritten connected =>
      rw [runOn_bind_ok hreach]
      have hsent := postConnected_sent (took.moves.keeps hsound).1 connected access link tx
      rw [took.nextId] at hsent
      exact .sent (by rw [GetsThrough, hreach]) took unwritten hsent

/-- A call that does not get past connecting is refused, writes nothing and
    takes no number. -/
theorem Called.of_short (h : Called access link tx c r) (hshort : ¬ GetsThrough access link c) :
    (∃ f, r.1 = .error (.relay f)) ∧ r.2.nextId = c.nextId ∧
      ∃ taken, r.2.steps = taken ++ c.steps ∧ ∀ s ∈ taken, s.isWrite = false := by
  cases h with
  | stopped f _ took unwritten => exact ⟨⟨f, rfl⟩, took.nextId, _, took.steps, unwritten⟩
  | sent through _ _ _ => exact absurd through hshort

/-- A call that gets past connecting takes the next number, and makes its
    attempts between the steps that led to the relay and those that listened. -/
theorem Called.of_through (h : Called access link tx c r) (hthrough : GetsThrough access link c) :
    ∃ reaching attempts listening, r.2.steps = listening ++ attempts ++ reaching ++ c.steps ∧
      (∀ s ∈ listening ++ reaching, s.isWrite = false) ∧
      Attempts (requestText access c.nextId tx) attempts ∧ r.2.nextId = c.nextId + 1 ∧
      ∃ waiting : Client, r.2 = waiting.giveUp c.nextId ∧
        (c.nextId ∈ waiting.inbox.pending →
          r.1 = .error .timeout ∨ ∃ f, r.1 = .error (.relay f)) := by
  cases h with
  | stopped f short _ _ => exact absurd hthrough short
  | @sent taken reached _ _ took unwritten sent =>
    cases sent with
    | @ended answer c' attempts quiet attempted quietly took' waits =>
      rw [took.nextId] at waits ⊢
      refine ⟨taken, attempts, quiet, ?_, fun s hs => ?_, attempted, ?_, c', rfl, waits⟩
      · rw [List.append_assoc, ← took.steps]
        exact took'.steps
      · rcases List.mem_append.1 hs with hs | hs
        · exact Step.isWrite_of_isQuiet (quietly s hs)
        · exact unwritten s hs
      · rw [← took.nextId]
        exact took'.nextId

/-- A call leaves no number that waits. -/
theorem Called.settled (h : Called access link tx c r) (hsettled : Settled c) : Settled r.2 := by
  obtain ⟨hsound, hidle⟩ := hsettled
  cases h with
  | stopped f _ took _ =>
    exact ⟨(took.moves.keeps hsound).1, List.subset_nil.1 (hidle ▸ took.pending)⟩
  | @sent _ reached _ _ took _ sent =>
    have hreached := (took.moves.keeps hsound).1
    have hreachedIdle : reached.inbox.pending = [] := List.subset_nil.1 (hidle ▸ took.pending)
    cases sent with
    | @ended _ c' _ _ _ _ took' _ =>
      have hsound' := (took'.moves.keeps hreached.request).1
      refine ⟨hsound'.giveUp _, List.eq_nil_iff_forall_not_mem.2 fun id hid => ?_⟩
      -- only the number of this call waited, and it does not wait any longer
      have hwaited : id ∈ reached.nextId :: reached.inbox.pending.erase reached.nextId :=
        took'.pending (List.mem_of_mem_erase hid)
      rw [hreachedIdle] at hwaited
      obtain rfl := List.mem_singleton.1 hwaited
      exact hsound'.inbox.nodup.not_mem_erase hid

/-- The texts that are written between two clients are the requests whose
    numbers were given out between them. -/
structure Writes (access : Access) (c c' : Client) : Prop where
  nextId : c.nextId ≤ c'.nextId
  steps : ∃ added, c'.steps = added ++ c.steps ∧
    ∀ text accepted, .write text accepted ∈ added → ∃ id tx,
      c.nextId ≤ id ∧ id < c'.nextId ∧ text = requestText access id tx

theorem Writes.refl (c : Client) : Writes access c c :=
  ⟨Nat.le_refl _, [], rfl, nofun⟩

theorem Writes.trans {c' c'' : Client} (h : Writes access c c') (h' : Writes access c' c'') :
    Writes access c c'' := by
  obtain ⟨hnext, added, hsteps, hadded⟩ := h
  obtain ⟨hnext', added', hsteps', hadded'⟩ := h'
  refine ⟨Nat.le_trans hnext hnext', added' ++ added, by rw [hsteps', hsteps, List.append_assoc],
    fun text accepted hmem => ?_⟩
  rcases List.mem_append.1 hmem with hmem | hmem
  · obtain ⟨id, tx, hle, hlt, htext⟩ := hadded' text accepted hmem
    exact ⟨id, tx, Nat.le_trans hnext hle, hlt, htext⟩
  · obtain ⟨id, tx, hle, hlt, htext⟩ := hadded text accepted hmem
    exact ⟨id, tx, hle, Nat.lt_of_lt_of_le hlt hnext', htext⟩

theorem not_mem_of_unwritten {steps : List Step} (h : ∀ s ∈ steps, s.isWrite = false)
    (text : String) (accepted : Bool) : .write text accepted ∉ steps := by
  intro hmem
  cases h _ hmem

/-- A call writes its own request only. -/
theorem Called.writes (h : Called access link tx c r) : Writes access c r.2 := by
  by_cases hthrough : GetsThrough access link c
  · obtain ⟨reaching, attempts, listening, hsteps, hunwritten, hattempts, hnext, -⟩ :=
      h.of_through hthrough
    refine ⟨hnext ▸ Nat.le_succ _, listening ++ attempts ++ reaching, hsteps,
      fun text accepted hmem => ⟨c.nextId, tx, Nat.le_refl _, hnext ▸ Nat.lt_succ_self _, ?_⟩⟩
    have hout := not_mem_of_unwritten hunwritten text accepted
    simp only [List.mem_append, not_or] at hmem hout
    exact hattempts.text_eq ((hmem.resolve_right hout.2).resolve_left hout.1)
  · obtain ⟨-, hnext, taken, hsteps, hunwritten⟩ := h.of_short hthrough
    exact ⟨Nat.le_of_eq hnext.symm, taken, hsteps, fun text accepted hmem =>
      absurd hmem (not_mem_of_unwritten hunwritten text accepted)⟩

end Called

/-! ## All calls of a client -/

/-- A client after some calls, one after the other. -/
def afterCalls (access : Access) (link : Link) (c : Client) (txs : List Transaction) : Client :=
  txs.foldl (fun c tx => (runOn (post access link tx) c).2) c

section Calls

variable {access : Access} {link : Link} {c : Client}

theorem afterCalls_append (txs txs' : List Transaction) :
    afterCalls access link c (txs ++ txs') =
      afterCalls access link (afterCalls access link c txs) txs' :=
  List.foldl_append ..

theorem Settled.calls (h : Settled c) (access : Access) (link : Link)
    (txs : List Transaction) :
    Settled (afterCalls access link c txs) ∧ Writes access c (afterCalls access link c txs) := by
  induction txs generalizing c with
  | nil => exact ⟨h, .refl c⟩
  | cons tx rest ih =>
    have hcalled := post_called h.sound access link tx
    obtain ⟨hsettled, hwrites⟩ := ih (hcalled.settled h)
    exact ⟨hsettled, hcalled.writes.trans hwrites⟩

/-- The number of a call that gets past connecting is not given out again. -/
theorem Settled.nextId_lt (h : Settled c) (hthrough : GetsThrough access link c)
    (tx : Transaction) (later : List Transaction) :
    c.nextId < (afterCalls access link c (tx :: later)).nextId := by
  have hcalled := post_called h.sound access link tx
  obtain ⟨-, -, -, -, -, -, hnext, -⟩ := hcalled.of_through hthrough
  have hle := ((hcalled.settled h).calls access link later).2.nextId
  rw [hnext] at hle
  exact hle

/-- The text of a request tells its number. -/
theorem requestText_inj {id id' : Nat} {tx tx' : Transaction}
    (h : requestText access id tx = requestText access id' tx') : id = id' := by
  have hread : ∀ id tx,
      (Json.parse? (requestText access id tx)).bind (·.get? "id") = some (.nat id) := by
    intro id tx
    unfold requestText
    rw [Json.parse?_compact (Json.plain_record (by simp [Json.Plain, Json.plain_record]))]
    rfl
  have hid : Json.nat id = Json.nat id' := by
    rw [← Option.some_inj, ← hread id tx, ← hread id' tx', h]
  simpa [Json.nat, Numeral.ofNat] using hid

/-- A request is not written while other numbers are given out. -/
theorem Writes.count_eq {c' : Client} (h : Writes access c c') {id : Nat}
    (hother : id < c.nextId ∨ c'.nextId ≤ id) (tx : Transaction) (accepted : Bool) :
    c'.steps.count (.write (requestText access id tx) accepted) =
      c.steps.count (.write (requestText access id tx) accepted) := by
  obtain ⟨-, added, hsteps, hadded⟩ := h
  have hnone : added.count (.write (requestText access id tx) accepted) = 0 := by
    refine List.count_eq_zero.2 fun hmem => ?_
    obtain ⟨given, tx', hle, hlt, htext⟩ := hadded _ _ hmem
    obtain rfl := requestText_inj htext
    omega
  rw [hsteps, List.count_append, hnone, Nat.zero_add]

/-- In all the time of a client, the request of a call is written in the
    attempts of that call only. -/
theorem count_writes (hsettled : Settled c) (hfirst : Writes access .new c)
    (hthrough : GetsThrough access link c) (tx : Transaction) (later : List Transaction) :
    ∃ attempts, Attempts (requestText access c.nextId tx) attempts ∧ ∀ accepted,
      (afterCalls access link c (tx :: later)).steps.count
          (.write (requestText access c.nextId tx) accepted) =
        attempts.count (.write (requestText access c.nextId tx) accepted) := by
  have hcalled := post_called hsettled.sound access link tx
  obtain ⟨reaching, attempts, listening, hsteps, hunwritten, hattempts, hnext, -⟩ :=
    hcalled.of_through hthrough
  have hlater := ((hcalled.settled hsettled).calls access link later).2
  refine ⟨attempts, hattempts, fun accepted => ?_⟩
  have hbefore := hfirst.count_eq (.inr (Nat.le_refl c.nextId)) tx accepted
  have hafter := hlater.count_eq (.inl (by rw [hnext]; exact Nat.lt_succ_self _)) tx accepted
  have hnone := List.count_eq_zero.2
    (not_mem_of_unwritten hunwritten (requestText access c.nextId tx) accepted)
  rw [List.count_append] at hnone
  show (afterCalls access link (runOn (post access link tx) c).2 later).steps.count _ = _
  rw [hafter, hsteps]
  simp only [List.count_append, hbefore]
  show _ + 0 = _
  omega

/-- For any calls of a client, and whatever the network does.  A call that does
    not get past connecting writes nothing and takes no number.  One that does
    takes a number greater than all before it.  Its request is written once
    at most, and tried twice at most, in all the time of the client; it is
    tried again, under its number and with its text, only when the first
    write failed and a new connection was opened.  When a call returns, no
    number waits; its own still has to be given up only where no answer came. -/
theorem requests_sent_once (access : Access) (link : Link) (earlier : List Transaction)
    (tx : Transaction) (later : List Transaction) :
    let c := afterCalls access link .new earlier
    let text := requestText access c.nextId tx
    let answer := (runOn (post access link tx) c).1
    let c' := (runOn (post access link tx) c).2
    let steps := (afterCalls access link .new (earlier ++ tx :: later)).steps
    (¬ GetsThrough access link c →
      (∃ f, answer = .error (.relay f)) ∧ c'.nextId = c.nextId ∧
      ∃ taken, c'.steps = taken ++ c.steps ∧ ∀ s ∈ taken, s.isWrite = false) ∧
    (GetsThrough access link c →
      (∀ before tx' between, earlier = before ++ tx' :: between →
        GetsThrough access link (afterCalls access link .new before) →
        (afterCalls access link .new before).nextId < c.nextId) ∧
      (∃ reaching attempts listening, c'.steps = listening ++ attempts ++ reaching ++ c.steps ∧
        (∀ s ∈ listening ++ reaching, s.isWrite = false) ∧ Attempts text attempts) ∧
      steps.count (.write text true) ≤ 1 ∧
      steps.count (.write text true) + steps.count (.write text false) ≤ 2 ∧
      ∃ waiting : Client, c' = waiting.giveUp c.nextId ∧
        (c.nextId ∈ waiting.inbox.pending →
          answer = .error .timeout ∨ ∃ f, answer = .error (.relay f))) ∧
    c'.inbox.pending = [] := by
  intro c text answer c' steps
  obtain ⟨hsettled, hearlier⟩ := settled_new.calls access link earlier
  have hcalled : Called access link tx c (answer, c') := post_called hsettled.sound access link tx
  have hsettled' : Settled c' := hcalled.settled hsettled
  refine ⟨hcalled.of_short, fun hthrough => ⟨?_, ?_⟩, hsettled'.idle⟩
  · rintro before tx' between rfl hpast
    have hsettledPast := (settled_new.calls access link before).1
    show _ < (afterCalls access link .new (before ++ tx' :: between)).nextId
    rw [afterCalls_append]
    exact hsettledPast.nextId_lt hpast tx' between
  · obtain ⟨reaching, attempts, listening, hsteps, hunwritten, hattempts, hnext, hwaiting⟩ :=
      hcalled.of_through hthrough
    have hsteps' : steps = (afterCalls access link c (tx :: later)).steps := by
      show (afterCalls access link .new (earlier ++ tx :: later)).steps = _
      rw [afterCalls_append]
    obtain ⟨written, hwritten, hcount⟩ := count_writes hsettled hearlier hthrough tx later
    obtain ⟨hone, htwo⟩ := hwritten.count_le
    rw [hsteps', hcount, hcount]
    exact ⟨⟨reaching, attempts, listening, hsteps, hunwritten, hattempts⟩, hone, htwo, hwaiting⟩

end Calls

end PoolWatch.Relay
