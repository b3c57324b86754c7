import PoolWatch.Proofs.Relay.Inbox
import PoolWatch.Relay.Client
import Mathlib.Logic.Relation

/-! # What may happen to a client

    The client takes frames, gives out numbers, opens connections and gives
    up waiting.  Each of these is a move, and its runs are sequences of
    moves.  No move gives a number out twice, and none lets a number wait
    that was answered: so between two requests nothing is shared but the
    connection, and only its end tells something to both. -/

namespace PoolWatch.Relay

/-! ## Frames -/

/-- The text that a frame carries. -/
def Frame.text? : Frame → Option String
  | .text t => some t
  | .binary data => some (Text.Utf8.decode data)
  | _ => none

/-- What a frame is to the inbox.  An end counts on the newest connection only. -/
def Frame.event? (isNewest : Bool) : Frame → Option Inbox.Event
  | .text t => some (.message t)
  | .binary data => some (.message (Text.Utf8.decode data))
  | .ping _ => none
  | .close => if isNewest then some .disconnect else none
  | .lost => if isNewest then some .disconnect else none

namespace Client

variable {c c' : Client} {id : Nat}

/-- Takes frames one after the other. -/
def hear (c : Client) (arrivals : List (Nat × Frame)) : Client :=
  arrivals.foldl receive c

/-- What the inbox takes of some frames. -/
def events (c : Client) (arrivals : List (Nat × Frame)) : List Inbox.Event :=
  arrivals.filterMap fun a => a.2.event? (a.1 = c.opened)

/-- What some frames tell a number that waits: the first of them counts. -/
def told (c : Client) (arrivals : List (Nat × Frame)) (id : Nat) : Option Reply :=
  (c.events arrivals).findSome? (Inbox.Event.tells id)

theorem receive_text {frame : Frame} {text : String} (h : frame.text? = some text)
    (connection : Nat) :
    c.receive (connection, frame) = { c with inbox := c.inbox.route text } := by
  cases frame with
  | text t =>
    obtain rfl := Option.some.inj h
    rfl
  | binary data =>
    obtain rfl := Option.some.inj h
    rfl
  | ping _ | close | lost => cases h

/-- Taking a frame gives out no number and opens no connection. -/
theorem receive_keeps (c : Client) (a : Nat × Frame) :
    (c.receive a).nextId = c.nextId ∧ (c.receive a).opened = c.opened := by
  obtain ⟨connection, frame⟩ := a
  cases frame with
  | text | binary => exact ⟨rfl, rfl⟩
  | ping data =>
    show (if c.connected then c.stepped (.pong data) else c).nextId = _ ∧
      (if c.connected then c.stepped (.pong data) else c).opened = _
    split <;> exact ⟨rfl, rfl⟩
  | close | lost =>
    show (if connection = c.opened then c.disconnect else c).nextId = _ ∧
      (if connection = c.opened then c.disconnect else c).opened = _
    split <;> exact ⟨rfl, rfl⟩

theorem receive_inbox (c : Client) (a : Nat × Frame) :
    (c.receive a).inbox = c.inbox.takeAll (a.2.event? (a.1 = c.opened)).toList := by
  obtain ⟨connection, frame⟩ := a
  cases frame with
  | text | binary => rfl
  | ping data =>
    show (if c.connected then c.stepped (.pong data) else c).inbox = c.inbox
    split <;> rfl
  | close | lost =>
    show (if connection = c.opened then c.disconnect else c).inbox = _
    by_cases h : connection = c.opened <;> simp [h, Frame.event?] <;> rfl

theorem hear_keeps (c : Client) (arrivals : List (Nat × Frame)) :
    (c.hear arrivals).nextId = c.nextId ∧ (c.hear arrivals).opened = c.opened := by
  induction arrivals generalizing c with
  | nil => exact ⟨rfl, rfl⟩
  | cons a rest ih =>
    obtain ⟨hnext, hopened⟩ := receive_keeps c a
    obtain ⟨hnext', hopened'⟩ := ih (c.receive a)
    exact ⟨hnext'.trans hnext, hopened'.trans hopened⟩

/-- The inbox takes of the frames what is meant for it. -/
theorem hear_inbox (c : Client) (arrivals : List (Nat × Frame)) :
    (c.hear arrivals).inbox = c.inbox.takeAll (c.events arrivals) := by
  induction arrivals generalizing c with
  | nil => rfl
  | cons a rest ih =>
    -- frames open no connection, so later ends are judged by the same number
    have hopened := (receive_keeps c a).2
    have hrest := ih (c.receive a)
    show ((c.receive a).hear rest).inbox = _
    unfold events at hrest ⊢
    rw [hrest, receive_inbox, hopened, List.filterMap_cons]
    cases a.2.event? (a.1 = c.opened) <;> rfl

/-! ## Moves -/

/-- A request takes the next number, which waits. -/
def request (c : Client) : Client :=
  { c with nextId := c.nextId + 1, inbox := c.inbox.expect c.nextId }

/-- The connection is given up for a request, whose number waits anew. -/
def renew (c : Client) (id : Nat) : Client :=
  { c.disconnect with inbox := (c.disconnect.inbox.forget id).expect id }

/-- A number waits no longer. -/
def giveUp (c : Client) (id : Nat) : Client :=
  { c with inbox := c.inbox.forget id }

/-- A connection is opened. -/
def reopen (c : Client) : Client :=
  { c.stepped (.connect true) with opened := c.opened + 1, connected := true }

/-- What may happen to a client. -/
inductive Move : Client → Client → Prop where
  | request (c : Client) : Move c c.request
  | receive (c : Client) (a : Nat × Frame) : Move c (c.receive a)
  | renew {c : Client} {id : Nat} (h : id < c.nextId) : Move c (c.renew id)
  | giveUp (c : Client) (id : Nat) : Move c (c.giveUp id)
  | reopen (c : Client) : Move c c.reopen
  | step (c : Client) (s : Step) : Move c (c.stepped s)

/-- Some moves, one after the other. -/
abbrev Moves : Client → Client → Prop := Relation.ReflTransGen Move

/-- A state that a client may come to. -/
def Reachable (c : Client) : Prop := Moves .new c

/-- What is true of a client at all times: its inbox is sound, and whatever
    waits there or was answered there had its number given out. -/
structure IsSound (c : Client) : Prop where
  inbox : c.inbox.IsSound
  waiting : ∀ id ∈ c.inbox.pending, id < c.nextId
  answered : ∀ a ∈ c.inbox.answered, a.1 < c.nextId

theorem isSound_new : IsSound .new := ⟨Inbox.isSound_empty, nofun, nofun⟩

/-- The next number does not wait, and was never answered. -/
theorem IsSound.fresh (h : c.IsSound) :
    c.nextId ∉ c.inbox.pending ∧ c.inbox.replies c.nextId = [] := by
  constructor
  · intro hwaits
    exact Nat.lt_irrefl _ (h.waiting _ hwaits)
  · apply Inbox.replies_eq_nil
    intro a ha
    exact Nat.ne_of_lt (h.answered a ha)

theorem mem_answered_complete {b : Inbox} {reply : Reply} {a : Nat × Reply}
    (ha : a ∈ (b.complete id reply).answered) : a ∈ b.answered ∨ a.1 ∈ b.pending := by
  unfold Inbox.complete at ha
  split at ha
  · next hwaits =>
    rcases List.mem_cons.1 ha with rfl | ha
    · exact .inr hwaits
    · exact .inl ha
  · exact .inl ha

theorem mem_answered_disconnect {b : Inbox} {a : Nat × Reply} (ha : a ∈ b.disconnect.answered) :
    a ∈ b.answered ∨ a.1 ∈ b.pending := by
  rcases List.mem_append.1 ha with ha | ha
  · obtain ⟨i, hi, rfl⟩ := List.mem_map.1 ha
    exact .inr hi
  · exact .inl ha

/-- What comes in answers only what waits, and lets nothing wait. -/
theorem take_bounds {b : Inbox} (e : Inbox.Event) :
    (b.take e).pending ⊆ b.pending ∧
      ∀ a ∈ (b.take e).answered, a ∈ b.answered ∨ a.1 ∈ b.pending := by
  cases e with
  | disconnect => exact ⟨List.nil_subset _, fun _ => mem_answered_disconnect⟩
  | message text =>
    show (b.route text).pending ⊆ _ ∧ ∀ a ∈ (b.route text).answered, _
    unfold Inbox.route
    cases readMessage text with
    | none => exact ⟨fun _ h => h, fun _ => .inl⟩
    | some m =>
      refine ⟨?_, fun _ => mem_answered_complete⟩
      show (b.complete m.1 m.2).pending ⊆ b.pending
      unfold Inbox.complete
      split
      · exact List.erase_subset
      · exact fun _ h => h

theorem IsSound.takes (h : c.IsSound) (hnext : c'.nextId = c.nextId) {e : Inbox.Event}
    (hinbox : c'.inbox = c.inbox.take e) : c'.IsSound := by
  obtain ⟨hpending, hanswered⟩ := take_bounds (b := c.inbox) e
  refine ⟨hinbox ▸ h.inbox.take e, ?_, ?_⟩
  · intro id hid
    rw [hinbox] at hid
    rw [hnext]
    exact h.waiting id (hpending hid)
  · intro a ha
    rw [hinbox] at ha
    rw [hnext]
    rcases hanswered a ha with ha | ha
    · exact h.answered a ha
    · exact h.waiting _ ha

theorem IsSound.congr (h : c.IsSound) (hnext : c'.nextId = c.nextId)
    (hinbox : c'.inbox = c.inbox) : c'.IsSound := by
  refine ⟨hinbox ▸ h.inbox, ?_, ?_⟩
  · rw [hinbox, hnext]
    exact h.waiting
  · rw [hinbox, hnext]
    exact h.answered

theorem IsSound.giveUp (h : c.IsSound) (id : Nat) : (c.giveUp id).IsSound where
  inbox := h.inbox.forget id
  waiting i hi := h.waiting i (List.mem_of_mem_erase hi)
  answered a ha := h.answered a (List.mem_filter.1 ha).1

/-- A number that was given out may wait when it is unanswered. -/
theorem IsSound.expect (h : c.IsSound) (hid : id < c.nextId) (hnone : c.inbox.replies id = []) :
    IsSound { c with inbox := c.inbox.expect id } where
  inbox := h.inbox.expect hnone
  waiting i hi := by
    rcases List.mem_cons.1 hi with rfl | hi
    · exact hid
    · exact h.waiting i (List.mem_of_mem_erase hi)
  answered := h.answered

theorem IsSound.request (h : c.IsSound) : c.request.IsSound := by
  have hlater : IsSound { c with nextId := c.nextId + 1 } :=
    ⟨h.inbox, fun i hi => Nat.lt_succ_of_lt (h.waiting i hi),
      fun a ha => Nat.lt_succ_of_lt (h.answered a ha)⟩
  exact hlater.expect (Nat.lt_succ_self _) h.fresh.2

theorem IsSound.renew (h : c.IsSound) (hid : id < c.nextId) : (c.renew id).IsSound := by
  have hdisconnected : c.disconnect.IsSound := h.takes (e := .disconnect) rfl rfl
  exact (hdisconnected.giveUp id).expect hid (Inbox.replies_forget_self _ id)

theorem IsSound.receive (h : c.IsSound) (a : Nat × Frame) : (c.receive a).IsSound := by
  have hnext := (receive_keeps c a).1
  have hinbox := receive_inbox c a
  cases hevent : a.2.event? (a.1 = c.opened) with
  | none =>
    rw [hevent] at hinbox
    exact h.congr hnext hinbox
  | some e =>
    rw [hevent] at hinbox
    exact h.takes hnext hinbox

/-- Every move keeps a client sound, and takes back no number. -/
theorem Move.keeps (hmove : Move c c') (h : c.IsSound) : c'.IsSound ∧ c.nextId ≤ c'.nextId := by
  cases hmove with
  | request => exact ⟨h.request, Nat.le_succ _⟩
  | receive a => exact ⟨h.receive a, Nat.le_of_eq (receive_keeps c a).1.symm⟩
  | renew hid => exact ⟨h.renew hid, Nat.le_refl _⟩
  | giveUp id => exact ⟨h.giveUp id, Nat.le_refl _⟩
  | reopen => exact ⟨h.congr rfl rfl, Nat.le_refl _⟩
  | step s => exact ⟨h.congr rfl rfl, Nat.le_refl _⟩

theorem Moves.keeps (hmoves : Moves c c') (h : c.IsSound) :
    c'.IsSound ∧ c.nextId ≤ c'.nextId := by
  induction hmoves with
  | refl => exact ⟨h, Nat.le_refl _⟩
  | tail _ hmove ih =>
    obtain ⟨hsound, hle⟩ := ih
    obtain ⟨hsound', hle'⟩ := hmove.keeps hsound
    exact ⟨hsound', Nat.le_trans hle hle'⟩

theorem Reachable.isSound (h : c.Reachable) : c.IsSound :=
  (Moves.keeps h isSound_new).1

theorem moves_hear (c : Client) (arrivals : List (Nat × Frame)) : Moves c (c.hear arrivals) := by
  induction arrivals generalizing c with
  | nil => exact .refl
  | cons a rest ih => exact .head (.receive c a) (ih _)

theorem moves_listen (c : Client) (link : Link) : Moves c (c.listen link) :=
  .tail (moves_hear c _) (.step _ _)

/-! ## What frames make of the numbers -/

theorem told_append_disconnect (c : Client) (arrivals : List (Nat × Frame)) (id : Nat) :
    (c.events arrivals ++ [Inbox.Event.disconnect]).findSome? (Inbox.Event.tells id) =
      some ((c.told arrivals id).getD (.error Inbox.disconnectedText)) := by
  rw [List.findSome?_append]
  unfold told
  cases (c.events arrivals).findSome? (Inbox.Event.tells id) <;> rfl

/-- The end of the connection is the last thing that the inbox takes. -/
theorem hear_disconnect_inbox (c : Client) (arrivals : List (Nat × Frame)) :
    (c.hear arrivals).disconnect.inbox = c.inbox.takeAll (c.events arrivals ++ [.disconnect]) := by
  unfold Inbox.takeAll
  rw [List.foldl_append]
  show (c.hear arrivals).inbox.disconnect = _
  rw [hear_inbox]
  rfl

/-- A number that waits is answered by the first frame that tells it
    anything, and fails at the end of the connection if there was none. -/
theorem hear_of_mem (h : c.IsSound) (hwaits : id ∈ c.inbox.pending)
    (arrivals : List (Nat × Frame)) :
    (c.hear arrivals).inbox.replies id = (c.told arrivals id).toList ∧
      (id ∈ (c.hear arrivals).inbox.pending ↔ c.told arrivals id = none) ∧
      (c.hear arrivals).disconnect.inbox.replies id =
        [(c.told arrivals id).getD (.error Inbox.disconnectedText)] := by
  -- the end of the connection is one more event, which tells something to all
  obtain ⟨hreplies, hpending⟩ := Inbox.takeAll_of_mem h.inbox hwaits (c.events arrivals)
  have hended := (Inbox.takeAll_of_mem h.inbox hwaits (c.events arrivals ++ [.disconnect])).1
  rw [told_append_disconnect] at hended
  rw [hear_disconnect_inbox, hear_inbox]
  exact ⟨hreplies, hpending, hended⟩

/-- A number that does not wait is told nothing. -/
theorem hear_of_not_mem (hout : id ∉ c.inbox.pending) (arrivals : List (Nat × Frame)) :
    (c.hear arrivals).inbox.replies id = c.inbox.replies id ∧
      id ∉ (c.hear arrivals).inbox.pending ∧
      (c.hear arrivals).disconnect.inbox.replies id = c.inbox.replies id := by
  obtain ⟨hreplies, hout'⟩ := Inbox.takeAll_of_not_mem hout (c.events arrivals)
  have hended := (Inbox.takeAll_of_not_mem hout (c.events arrivals ++ [.disconnect])).1
  rw [hear_disconnect_inbox, hear_inbox]
  exact ⟨hreplies, hout', hended⟩

/-- A frame for no number that waits changes nothing. -/
theorem receive_eq_self {frame : Frame} {text : String} (htext : frame.text? = some text)
    (hnone : ∀ id reply, readMessage text = some (id, reply) → id ∉ c.inbox.pending)
    (connection : Nat) : c.receive (connection, frame) = c := by
  rw [receive_text htext, Inbox.route_eq_self hnone]

/-- A frame about one number says nothing of another. -/
theorem receive_ne {frame : Frame} {text : String} {other : Nat} {reply : Reply}
    (htext : frame.text? = some text) (hread : readMessage text = some (other, reply))
    (hne : other ≠ id) (c : Client) (connection : Nat) :
    (c.receive (connection, frame)).inbox.replies id = c.inbox.replies id ∧
      (id ∈ (c.receive (connection, frame)).inbox.pending ↔ id ∈ c.inbox.pending) := by
  have hroute : c.inbox.route text = c.inbox.complete other reply := by
    unfold Inbox.route
    rw [hread]
  rw [receive_text htext]
  show (c.inbox.route text).replies id = _ ∧ (id ∈ (c.inbox.route text).pending ↔ _)
  rw [hroute]
  exact Inbox.complete_ne hne reply

end Client

end PoolWatch.Relay
