import PoolWatch.Proofs.Json.RoundTrip
import PoolWatch.Relay.Inbox

/-! # What the inbox makes of a run of messages

    Messages come in any order, some of them damaged, some of them for no
    one, and a disconnect may come in between.  What becomes of a number that
    waits is settled by the first event that tells it something: a message
    that carries the number, or a disconnect.  Until then it waits, and from
    then on nothing changes for it any more.  A number that does not wait is
    told nothing. -/

namespace PoolWatch.Relay

/-! ## Messages -/

/-- A text is a message that carries a number. -/
def Carries (text : String) (id : Nat) (message : Json) : Prop :=
  Json.parseValue? text = some message ∧
    ∃ number, (message.get? "id").bind Json.word64? = some number ∧ number.toNat = id

/-- What a message says under a name, where nothing is the same as null. -/
def said (message : Json) (name : String) : Json :=
  (message.get? name).getD .null

theorem readMessage_eq_some {text : String} {id : Nat} {reply : Reply} :
    readMessage text = some (id, reply) ↔
      ∃ message, Carries text id message ∧ replyOf message = reply := by
  unfold readMessage
  constructor
  · intro h
    obtain ⟨message, hparse, h⟩ := Option.bind_eq_some_iff.1 h
    obtain ⟨number, hnumber, h⟩ := Option.bind_eq_some_iff.1 h
    cases h
    exact ⟨message, ⟨hparse, number, hnumber, rfl⟩, rfl⟩
  · rintro ⟨message, ⟨hparse, number, hnumber, rfl⟩, rfl⟩
    simp only [hparse, hnumber, Option.bind_eq_bind, Option.bind_some, Option.pure_def]

/-- The text of a message with a number is such a text. -/
theorem carries_compact {message : Json} {number : UInt64} (hplain : message.Plain)
    (hcanonical : message.canonical? Json.maxDepth = some message)
    (hnumber : (message.get? "id").bind Json.word64? = some number) :
    Carries message.compact number.toNat message := by
  refine ⟨?_, number, hnumber, rfl⟩
  unfold Json.parseValue?
  rw [Json.parse?_compact hplain, Option.bind_some, hcanonical]

/-- A message answers with its error, if there is one, and with its result otherwise. -/
theorem replyOf_eq_iff {message : Json} {reply : Reply} :
    replyOf message = reply ↔
      (said message "error" = .null ∧ reply = .ok (said message "result")) ∨
      (said message "error" ≠ .null ∧ reply = .error (said message "error").compact) := by
  unfold replyOf said
  split
  · next h => simp [h, eq_comm]
  · next h => simp [h, eq_comm]
  · next error hnull h =>
    have hne : error ≠ .null := fun heq => hnull (heq ▸ rfl)
    simp [h, hne, eq_comm]

namespace Inbox

/-! ## Events -/

/-- What may come in. -/
inductive Event where
  | message (text : String)
  | disconnect

/-- Takes what came in. -/
def take (b : Inbox) : Event → Inbox
  | .message text => b.route text
  | .disconnect => b.disconnect

/-- What an event tells a number that waits. -/
def Event.tells (id : Nat) : Event → Option Reply
  | .message text => (readMessage text).bind fun m => if m.1 = id then some m.2 else none
  | .disconnect => some (.error disconnectedText)

theorem Event.tells_message {text : String} {id : Nat} {reply : Reply} :
    tells id (.message text) = some reply ↔
      ∃ message, Carries text id message ∧ replyOf message = reply := by
  rw [← readMessage_eq_some]
  unfold tells
  constructor
  · intro h
    obtain ⟨⟨carried, reply'⟩, hread, h⟩ := Option.bind_eq_some_iff.1 h
    split at h
    · next heq =>
      cases h
      rw [hread, ← heq]
    · cases h
  · intro h
    simp [h]

/-- The answers that came in for a number. -/
def replies (b : Inbox) (id : Nat) : List Reply :=
  (b.answered.filter fun a => a.1 = id).map (·.2)

/-- No number waits twice, and none that waits was answered. -/
structure IsSound (b : Inbox) : Prop where
  nodup : b.pending.Nodup
  unanswered : ∀ id ∈ b.pending, b.replies id = []

theorem isSound_empty : IsSound .empty := ⟨List.nodup_nil, nofun⟩

variable {b : Inbox} {id other : Nat} {reply : Reply}

theorem answer?_eq (b : Inbox) (id : Nat) : b.answer? id = (b.replies id).head? := by
  unfold answer? replies
  induction b.answered with
  | nil => rfl
  | cons a rest ih =>
    obtain ⟨i, reply⟩ := a
    by_cases h : i = id
    · simp [h]
    · have hne : (id == i) = false := by simp [Ne.symm h]
      simp only [List.lookup_cons, hne, List.filter_cons, h, decide_false, Bool.false_eq_true,
        if_false, ih]

theorem replies_eq_nil (h : ∀ a ∈ b.answered, a.1 ≠ id) : b.replies id = [] := by
  unfold replies
  rw [List.map_eq_nil_iff, List.filter_eq_nil_iff]
  intro a ha
  simpa using h a ha

/-! ## One answer -/

theorem complete_self (h : id ∈ b.pending) :
    (b.complete id reply).replies id = reply :: b.replies id := by
  unfold complete
  rw [if_pos h]
  simp [replies]

theorem complete_ne (h : other ≠ id) (reply : Reply) :
    (b.complete other reply).replies id = b.replies id ∧
      (id ∈ (b.complete other reply).pending ↔ id ∈ b.pending) := by
  unfold complete
  by_cases hother : other ∈ b.pending
  · rw [if_pos hother]
    constructor
    · simp [replies, h]
    · exact List.mem_erase_of_ne h.symm
  · rw [if_neg hother]
    exact ⟨rfl, Iff.rfl⟩

/-- An answer to a number that does not wait changes nothing at all. -/
theorem complete_of_not_mem (h : id ∉ b.pending) (reply : Reply) : b.complete id reply = b :=
  if_neg h

theorem not_mem_complete (hsound : b.IsSound) (h : id ∈ b.pending) :
    id ∉ (b.complete id reply).pending := by
  unfold complete
  rw [if_pos h]
  exact hsound.nodup.not_mem_erase

theorem IsSound.complete (hsound : b.IsSound) (id : Nat) (reply : Reply) :
    (b.complete id reply).IsSound := by
  by_cases h : id ∈ b.pending
  · have hpending : (b.complete id reply).pending = b.pending.erase id := by
      unfold Inbox.complete
      rw [if_pos h]
    refine ⟨hpending ▸ hsound.nodup.erase id, ?_⟩
    intro waiting hwaiting
    -- the number that was answered waits no longer, and the others are as they were
    have hne : id ≠ waiting := by
      rintro rfl
      exact not_mem_complete hsound h hwaiting
    obtain ⟨hreplies, hmem⟩ := complete_ne hne reply (b := b)
    rw [hreplies]
    exact hsound.unanswered waiting (hmem.1 hwaiting)
  · rw [complete_of_not_mem h]
    exact hsound

/-! ## One event -/

/-- A message changes nothing if it carries no number that waits. -/
theorem route_eq_self {text : String}
    (h : ∀ id reply, readMessage text = some (id, reply) → id ∉ b.pending) : b.route text = b := by
  unfold route
  cases hread : readMessage text with
  | none => rfl
  | some m => exact complete_of_not_mem (h m.1 m.2 hread) m.2

theorem replies_disconnect (hsound : b.IsSound) (h : id ∈ b.pending) :
    b.disconnect.replies id = [.error disconnectedText] := by
  have hwaiting : ((b.pending.map fun i => (i, (.error disconnectedText : Reply))).filter
      fun a => a.1 = id) = [(id, .error disconnectedText)] := by
    rw [List.filter_map]
    have honly : b.pending.filter ((fun a : Nat × Reply => decide (a.1 = id)) ∘
        fun i => (i, .error disconnectedText)) = [id] := by
      have hcount := hsound.nodup.count (a := id)
      rw [if_pos h] at hcount
      show b.pending.filter (fun i => decide (i = id)) = [id]
      rw [List.filter_eq, hcount]
      rfl
    rw [honly]
    rfl
  have hnone := hsound.unanswered id h
  unfold replies at hnone ⊢
  unfold disconnect
  rw [List.filter_append, List.map_append, hwaiting, hnone]
  rfl

theorem replies_disconnect_of_not_mem (h : id ∉ b.pending) :
    b.disconnect.replies id = b.replies id := by
  unfold replies disconnect
  rw [List.filter_append]
  have hnone : ((b.pending.map fun i => (i, (.error disconnectedText : Reply))).filter
      fun a => a.1 = id) = [] := by
    rw [List.filter_eq_nil_iff]
    intro a ha
    obtain ⟨i, hi, rfl⟩ := List.mem_map.1 ha
    simp only [decide_eq_true_eq]
    rintro rfl
    exact h hi
  rw [hnone, List.nil_append]

theorem isSound_disconnect (b : Inbox) : b.disconnect.IsSound := ⟨List.nodup_nil, nofun⟩

theorem IsSound.take (hsound : b.IsSound) (e : Event) : (b.take e).IsSound := by
  cases e with
  | disconnect => exact isSound_disconnect b
  | message text =>
    show (b.route text).IsSound
    unfold route
    split
    · exact hsound.complete _ _
    · exact hsound

/-- A number that waits is given what the event tells it, and goes on waiting
    if that is nothing. -/
theorem take_of_mem (hsound : b.IsSound) (h : id ∈ b.pending) (e : Event) :
    (b.take e).replies id = (e.tells id).toList ∧
      (id ∈ (b.take e).pending ↔ e.tells id = none) := by
  cases e with
  | disconnect =>
    have hout : id ∉ b.disconnect.pending := List.not_mem_nil
    exact ⟨replies_disconnect hsound h, by simp [take, hout, Event.tells]⟩
  | message text =>
    have hnone := hsound.unanswered id h
    show (b.route text).replies id = _ ∧ (id ∈ (b.route text).pending ↔ _)
    unfold route Event.tells
    cases hread : readMessage text with
    | none => simp [hread, hnone, h]
    | some m =>
      obtain ⟨carried, reply⟩ := m
      by_cases heq : carried = id
      · subst heq
        have hout : carried ∉ (b.complete carried reply).pending := not_mem_complete hsound h
        simp [hread, complete_self h, hnone, hout]
      · obtain ⟨hreplies, hmem⟩ := complete_ne heq reply (b := b)
        simp [hread, heq, hreplies, hmem, hnone, h]

/-- A number that does not wait is told nothing, and does not wait afterwards. -/
theorem take_of_not_mem (h : id ∉ b.pending) (e : Event) :
    (b.take e).replies id = b.replies id ∧ id ∉ (b.take e).pending := by
  cases e with
  | disconnect => exact ⟨replies_disconnect_of_not_mem h, List.not_mem_nil⟩
  | message text =>
    show (b.route text).replies id = _ ∧ id ∉ (b.route text).pending
    unfold route
    cases hread : readMessage text with
    | none => exact ⟨rfl, h⟩
    | some m =>
      obtain ⟨carried, reply⟩ := m
      by_cases heq : carried = id
      · subst heq
        dsimp only
        rw [complete_of_not_mem h reply]
        exact ⟨rfl, h⟩
      · obtain ⟨hreplies, hmem⟩ := complete_ne heq reply (b := b)
        exact ⟨hreplies, fun hwaits => h (hmem.1 hwaits)⟩

/-! ## A run of events -/

/-- Takes events one after the other. -/
def takeAll (b : Inbox) (es : List Event) : Inbox :=
  es.foldl take b

theorem takeAll_of_not_mem (h : id ∉ b.pending) (es : List Event) :
    (b.takeAll es).replies id = b.replies id ∧ id ∉ (b.takeAll es).pending := by
  induction es generalizing b with
  | nil => exact ⟨rfl, h⟩
  | cons e rest ih =>
    obtain ⟨hreplies, hout⟩ := take_of_not_mem h e
    obtain ⟨hrest, hout'⟩ := ih hout
    exact ⟨hrest.trans hreplies, hout'⟩

/-- A number that waits is given what the first event tells it that tells it
    anything, and nothing else; it waits until then. -/
theorem takeAll_of_mem (hsound : b.IsSound) (h : id ∈ b.pending) (es : List Event) :
    (b.takeAll es).replies id = (es.findSome? (Event.tells id)).toList ∧
      (id ∈ (b.takeAll es).pending ↔ es.findSome? (Event.tells id) = none) := by
  induction es generalizing b with
  | nil => exact ⟨hsound.unanswered id h, by simp [takeAll, h]⟩
  | cons e rest ih =>
    obtain ⟨hreplies, hwaits⟩ := take_of_mem hsound h e
    show ((b.take e).takeAll rest).replies id = _ ∧ (id ∈ ((b.take e).takeAll rest).pending ↔ _)
    rw [List.findSome?_cons]
    cases htells : e.tells id with
    | none => exact ih (hsound.take e) (hwaits.2 htells)
    | some reply =>
      -- told once, it waits no longer, and so is told nothing after that
      have hout : id ∉ (b.take e).pending := by
        rw [hwaits, htells]
        simp
      obtain ⟨hrest, hout'⟩ := takeAll_of_not_mem hout rest
      rw [hrest, hreplies, htells]
      exact ⟨rfl, by simp [hout']⟩

/-! ## Beginning and ending to wait -/

theorem replies_forget_self (b : Inbox) (id : Nat) : (b.forget id).replies id = [] := by
  apply replies_eq_nil
  intro a ha
  simpa using (List.mem_filter.1 ha).2

theorem replies_forget_ne (h : other ≠ id) : (b.forget other).replies id = b.replies id := by
  unfold replies forget
  rw [List.filter_filter]
  congr 1
  apply List.filter_congr
  intro a _
  by_cases ha : a.1 = id
  · simp [ha, h.symm]
  · simp [ha]

theorem IsSound.forget (hsound : b.IsSound) (id : Nat) : (b.forget id).IsSound := by
  refine ⟨hsound.nodup.erase id, ?_⟩
  intro waiting hwaiting
  have hne : id ≠ waiting := by
    rintro rfl
    exact hsound.nodup.not_mem_erase hwaiting
  rw [replies_forget_ne hne]
  exact hsound.unanswered waiting (List.mem_of_mem_erase hwaiting)

theorem mem_expect (b : Inbox) (id : Nat) : id ∈ (b.expect id).pending :=
  List.mem_cons_self ..

/-- An unanswered number may begin to wait. -/
theorem IsSound.expect (hsound : b.IsSound) (h : b.replies id = []) : (b.expect id).IsSound := by
  refine ⟨List.nodup_cons.2 ⟨hsound.nodup.not_mem_erase, hsound.nodup.erase id⟩, ?_⟩
  intro waiting hwaiting
  show b.replies waiting = []
  rcases List.mem_cons.1 hwaiting with rfl | hwaiting
  · exact h
  · exact hsound.unanswered waiting (List.mem_of_mem_erase hwaiting)

end Inbox

end PoolWatch.Relay
