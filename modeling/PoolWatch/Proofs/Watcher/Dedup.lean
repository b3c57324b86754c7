import PoolWatch.Proofs.Watcher.Answer
import PoolWatch.Proofs.Watcher.Discipline
import PoolWatch.Proofs.Watcher.Sightings

/-! # Duplicates are dropped, and nothing else is

    An envelope is presented to the watcher at some time, and is handled or
    dropped.  It should be dropped exactly when its signature was handled
    less than a window of time ago; that it was dropped since should make no
    difference.

    What is remembered is changed by every arrival, and forgets by itself as
    time passes.  The invariant `Logged` ties it to the log of all
    presentations so far.  Handling takes time, and several envelopes may be
    under way at once: one whose withdrawal has to settle is left waiting,
    others are presented, and it is taken up again.  In a log, the latest
    presentation stands first.

    The window counts from one presentation to the next, and rows come later
    than presentations, by as long as withdrawals take to settle.  So two rows
    of one signature may be closer than a window, as `late_sale` shows, but by
    no more than their envelopes took. -/

namespace PoolWatch.Watcher

open Tracking (statusOf)

/-! ## Rows -/

/-- The rows that the history of one state has more than that of another. -/
def newRows (w w' : State) : List Row :=
  w'.trades.rows.take (w'.trades.rows.length - w.trades.rows.length)

/-- One row at most was appended, of a trade under this signature that is
    dated with the wall clock at the end. -/
def AddsUnder (s : Setup) (signature : String) (w w' : State) : Prop :=
  ∃ rows, w'.trades.rows = rows ++ w.trades.rows ∧ rows.length ≤ 1 ∧
    ∀ row ∈ rows, ∃ t, row.trade = .ok t ∧ t.signature = signature ∧
      t.timestamp = s.wallSeconds w'

section Rows

variable {s : Setup} {e : Envelope} {w w₁ w' : State} {rows : List Row}

theorem newRows_eq (h : w'.trades.rows = rows ++ w.trades.rows) : newRows w w' = rows := by
  unfold newRows
  rw [h, List.length_append, Nat.add_sub_cancel, List.take_left]

theorem AddsUnder.of_keepsBooks {signature : String} (h : AddsUnder s signature w₁ w')
    (hkeeps : keepsBooks.rel w w₁) : AddsUnder s signature w w' := by
  obtain ⟨htrades, -⟩ := Prod.mk.inj hkeeps
  unfold AddsUnder
  rw [← htrades]
  exact h

/-- An envelope that goes on is finished, with a row at most, or has to wait,
    and then nothing is recorded yet. -/
structure GoesOn (s : Setup) (signature : String) (w : State) (next : Option Suspended × State) :
    Prop where
  finished : next.1 = none → AddsUnder s signature w next.2
  waits : ∀ x ∈ next.1, next.2.trades.rows = w.trades.rows ∧ x.envelope.signature = signature

theorem GoesOn.of_keepsBooks {signature : String} {next : Option Suspended × State}
    (h : GoesOn s signature w₁ next) (hkeeps : keepsBooks.rel w w₁) :
    GoesOn s signature w next := by
  obtain ⟨htrades, -⟩ := Prod.mk.inj hkeeps
  refine ⟨fun hnone => (h.finished hnone).of_keepsBooks hkeeps, fun x hx => ?_⟩
  obtain ⟨hrows, hsignature⟩ := h.waits x hx
  exact ⟨hrows.trans (congrArg TradeHistory.rows htrades), hsignature⟩

end Rows

/-! ## Presentations -/

/-- An envelope that was presented: when, whether it was handled, until when
    it was last worked on, what is left of it while a withdrawal settles, and
    which rows it appended. -/
structure Presentation where
  signature : String
  time : Nat
  handled : Bool
  ended : Nat
  waiting : Option Suspended
  rows : List Row

/-- What may be said of every presentation. -/
structure Presentation.Sound (s : Setup) (q : Presentation) : Prop where
  time_le : q.time ≤ q.ended
  rows_le : q.rows.length ≤ 1
  rows_trade : ∀ row ∈ q.rows, ∃ t, row.trade = .ok t ∧ t.signature = q.signature ∧
    t.timestamp = s.secondsAt q.ended
  dropped : q.handled = false → q.rows = [] ∧ q.waiting = none
  waits : ∀ x ∈ q.waiting, q.rows = [] ∧ x.envelope.signature = q.signature

/-- What goes on is told by the rows that are new, and by what it waits for. -/
theorem GoesOn.sound {s : Setup} {signature : String} {w w' : State}
    {waiting : Option Suspended} {time : Nat} (h : GoesOn s signature w (waiting, w'))
    (hle : time ≤ w'.time) :
    w'.trades.rows = newRows w w' ++ w.trades.rows ∧
      Presentation.Sound s ⟨signature, time, true, w'.time, waiting, newRows w w'⟩ := by
  cases waiting with
  | none =>
    obtain ⟨rows, hrows, hone, hread⟩ := h.finished rfl
    rw [newRows_eq hrows]
    exact ⟨hrows, hle, hone, hread, nofun, nofun⟩
  | some x =>
    obtain ⟨hrows, hsignature⟩ := h.waits x rfl
    have hnone : newRows w w' = [] := newRows_eq hrows
    rw [hnone]
    refine ⟨hrows, hle, Nat.zero_le 1, nofun, nofun, ?_⟩
    rintro y hy
    obtain rfl := Option.some.inj hy
    exact ⟨rfl, hsignature⟩

/-- No presentation of a signature was handled less than a window of time ago. -/
def IsFresh (window : Nat) (log : List Presentation) (signature : String) (time : Nat) : Prop :=
  ∀ q ∈ log, q.handled = true → q.signature = signature → q.time + window ≤ time

/-- Presentations came in the order of the log, and those were handled that
    were fresh. -/
def IsExact (window : Nat) : List Presentation → Prop
  | [] => True
  | q :: older =>
    (∀ p ∈ older, p.time ≤ q.time) ∧
      (q.handled = true ↔ IsFresh window older q.signature q.time) ∧ IsExact window older

/-- What is remembered now and later are the signatures that were handled less
    than a window ago, and the rows are those of the log. -/
structure Logged (s : Setup) (old : List Row) (w : State) (log : List Presentation) : Prop where
  memory : ∀ time, w.time ≤ time → ∀ signature,
    w.seen.remembers time signature = false ↔ IsFresh s.window log signature time
  past : ∀ q ∈ log, q.time ≤ w.time
  isExact : IsExact s.window log
  sound : ∀ q ∈ log, q.Sound s
  rows : w.trades.rows.Perm (log.flatMap Presentation.rows ++ old)

section Logged

variable {s : Setup} {old : List Row} {w w' : State} {log newer older : List Presentation}
  {q : Presentation} {e : Envelope}

theorem isFresh_cons {window : Nat} {signature : String} {time : Nat} :
    IsFresh window (q :: log) signature time ↔
      (q.handled = true → q.signature = signature → q.time + window ≤ time) ∧
        IsFresh window log signature time :=
  List.forall_mem_cons

theorem Logged.meanwhile (h : Logged s old w log) (hseen : keepsSeen.rel w w')
    (hrows : w'.trades.rows = w.trades.rows) : Logged s old w' log := by
  obtain ⟨hseen, htime⟩ := hseen
  refine ⟨?_, fun q hq => Nat.le_trans (h.past q hq) htime, h.isExact, h.sound, hrows ▸ h.rows⟩
  intro time hle signature
  rw [hseen]
  exact h.memory time (Nat.le_trans htime hle) signature

/-- A presentation that is dropped leaves everything as it is. -/
theorem Logged.drop (h : Logged s old w log) (hseen : w.seen.remembers w.time e.signature = true) :
    Logged s old w (⟨e.signature, w.time, false, w.time, none, []⟩ :: log) := by
  have hstale : ¬ IsFresh s.window log e.signature w.time := by
    rw [← h.memory w.time (Nat.le_refl _), hseen]
    exact nofun
  refine ⟨?_, ?_, ⟨h.past, iff_of_false nofun hstale, h.isExact⟩, ?_, h.rows⟩
  · intro time hle signature
    rw [h.memory time hle, isFresh_cons]
    exact (and_iff_right nofun).symm
  · exact List.forall_mem_cons.2 ⟨Nat.le_refl _, h.past⟩
  · refine List.forall_mem_cons.2 ⟨?_, h.sound⟩
    exact ⟨Nat.le_refl _, Nat.zero_le 1, nofun, fun _ => ⟨rfl, rfl⟩, nofun⟩

/-- A presentation that is handled is remembered for a window of time. -/
theorem Logged.handle (h : Logged s old w log)
    (hnew : w.seen.remembers w.time q.signature = false) (hsignature : q.signature = e.signature)
    (htime : q.time = w.time) (hhandled : q.handled = true) (hsound : q.Sound s)
    (hseen : keepsSeen.rel (noteArrival s e w) w')
    (hrows : w'.trades.rows = q.rows ++ w.trades.rows) : Logged s old w' (q :: log) := by
  obtain ⟨hseen, hlater⟩ := hseen
  have hlater : w.time ≤ w'.time := hlater
  have hfresh := (h.memory w.time (Nat.le_refl _) q.signature).1 hnew
  refine ⟨?_, ?_, ⟨?_, iff_of_true hhandled (htime ▸ hfresh), h.isExact⟩, ?_, ?_⟩
  · intro time hle signature
    have hle : w.time ≤ time := Nat.le_trans hlater hle
    have hnote : (w.seen.note w.time s.window e.signature).remembers time signature = true ↔
        (e.signature = signature ∧ time < w.time + s.window) ∨
          w.seen.remembers time signature = true := Sightings.remembers_note hle
    have hrecent : ¬ (e.signature = signature ∧ time < w.time + s.window) ↔
        (q.handled = true → q.signature = signature → q.time + s.window ≤ time) := by
      rw [hsignature, htime, not_and, Nat.not_lt]
      exact ⟨fun h _ => h, fun h => h hhandled⟩
    rw [isFresh_cons, ← h.memory time hle, hseen, ← hrecent, ← Bool.not_eq_true,
      ← Bool.not_eq_true, ← not_or]
    exact not_congr hnote
  · refine List.forall_mem_cons.2 ⟨htime ▸ hlater, fun p hp => ?_⟩
    exact Nat.le_trans (h.past p hp) hlater
  · rw [htime]
    exact h.past
  · exact List.forall_mem_cons.2 ⟨hsound, h.sound⟩
  · rw [hrows, List.flatMap_cons, List.append_assoc]
    exact h.rows.append_left q.rows

end Logged

section Spans

variable {s : Setup} {clock : Presentation → Nat} {window : Nat} {signature : String}
  {start span : Nat} {q : Presentation} {log older : List Presentation}

end Spans

namespace SaleSample

/-- A swap on the venue by the bot. -/
def selling : CompiledInstruction :=
  ⟨0, [0, 1, 0, 0, 0, 0, 0, 2, 0, 0, 0, 0, 0, 0, 0, 0, 0, 3], Instruction.encodeSwap 500 1⟩

/-- A sale in an envelope of its own. -/
def swiftSale : Envelope :=
  { Envelope.empty with
    accountKeys := [Address.venueProgram, venue, Address.orderBookProgram, setup.bot]
    instructions := [selling] }

/-- A sale with a withdrawal before it, under the same signature. -/
def slowSale : Envelope :=
  { swiftSale with instructions := [withdrawing, selling] }

/-- The watcher that tracks the venue. -/
def tracks : State := start (tracking Address.orderBookProgram)

section Tracks

variable {w : State} (hstore : w.registry.store = tracks.registry.store)

include hstore

end Tracks

/-- The watcher when the withdrawal before the sale has settled. -/
def settled (asked : List Query) : State :=
  { noteArrival setup slowSale tracks with
    time := 500, registry := { tracks.registry with asked } }

end SaleSample

end PoolWatch.Watcher
