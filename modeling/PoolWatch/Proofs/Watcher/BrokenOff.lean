import PoolWatch.Proofs.Watcher.Beside
import PoolWatch.Proofs.Watcher.Commute
import PoolWatch.Proofs.Watcher.Order

/-! # What is broken off leaves no trace

    An opening or a withdrawal may be broken off at any stage: when its venue
    is resolved, when a table, the pool or its market is read, when the native
    side is chosen, when the balance or the status is read.  All of these come
    before anything is written to a tracker or shown to the strategy, and once
    something is, nothing is left that could be refused (`RefusedWithin`).  So
    what is broken off has looked things up, and no more; and from there on
    the watcher stands beside one that was not given the instruction at all.

    For the second part the node has to tell the same whenever it is asked,
    for what was looked up in vain is asked for again. -/

namespace PoolWatch.Watcher

open Registry (onlyAdds Knows)
open Tracking (statusOf)

/-! ## Refusals -/

/-- Nothing changes but the time, and what is kept of tables and pools is
    added to. -/
structure LooksUp (w w' : State) : Prop where
  adds : Registry.Adds w.registry w'.registry
  trades : w'.trades = w.trades
  router : w'.router = w.router
  seen : w'.seen = w.seen
  blockhash : w'.blockhash = w.blockhash
  fired : w'.fired = w.fired
  notices : w'.notices = w.notices

/-- Time passes, and things are looked up. -/
def onlyLooksUp : Frame State where
  rel := LooksUp
  refl w := ⟨onlyAdds.refl w.registry, rfl, rfl, rfl, rfl, rfl, rfl⟩
  trans h h' :=
    { adds := onlyAdds.trans h.adds h'.adds
      trades := h'.trades.trans h.trades
      router := h'.router.trans h.router
      seen := h'.seen.trans h.seen
      blockhash := h'.blockhash.trans h.blockhash
      fired := h'.fired.trans h.fired
      notices := h'.notices.trans h.notices }

/-- Whatever an operation does when it answers, when it is refused it has
    stayed within a frame. -/
def RefusedWithin {α : Type} (F : Frame State) (op : WatchM α) : Prop :=
  ∀ w err w', runOn op w = (.error err, w') → F.rel w w'

section Refusals

variable {F : Frame State} {ε α β : Type}

theorem refusedWithin_bind {op : WatchM α} {next : α → WatchM β} (h : F.Allows op.run)
    (hnext : ∀ a, RefusedWithin F (next a)) : RefusedWithin F (op >>= next) := by
  intro w err w' hrun
  rcases hop : runOn op w with ⟨err' | a, w₁⟩
  · rw [runOn_bind_error hop] at hrun
    obtain ⟨-, rfl⟩ := Prod.mk.inj hrun
    exact h.rel_of_runOn hop
  · rw [runOn_bind_ok hop] at hrun
    exact F.trans (h.rel_of_runOn hop) (hnext a w₁ err w' hrun)

/-- After the last part that may be refused there may be anything. -/
theorem refusedWithin_bind_last {op : WatchM α} {next : α → WatchM β} (h : RefusedWithin F op)
    (hnext : ∀ a w, ∃ b w', runOn (next a) w = (.ok b, w')) : RefusedWithin F (op >>= next) := by
  intro w err w' hrun
  rcases hop : runOn op w with ⟨err' | a, w₁⟩
  · rw [runOn_bind_error hop] at hrun
    obtain ⟨-, rfl⟩ := Prod.mk.inj hrun
    exact h w err' w₁ hop
  · obtain ⟨b, w₂, hanswers⟩ := hnext a w₁
    rw [runOn_bind_ok hop, hanswers] at hrun
    cases hrun

theorem refusedWithin_get_bind {next : State → WatchM α} (h : ∀ w, RefusedWithin F (next w)) :
    RefusedWithin F (get >>= next) :=
  fun w err w' hrun => h w w err w' hrun

theorem refusedWithin_pure (a : α) : RefusedWithin F (pure a : WatchM α) := by
  intro w err w' hrun
  cases hrun

/-- An operation on trackers that is refused with the store as it was. -/
theorem refusedWithin_onTrackers {op : Tracking.TrackM α}
    (h : ∀ store err, (runOn op store).1 = .error err → (runOn op store).2 = store) :
    RefusedWithin F (onTrackers op) := by
  intro w err w' hrun
  rw [runOn_onTrackers] at hrun
  obtain ⟨hanswer, rfl⟩ := Prod.mk.inj hrun
  rcases hop : runOn op w.registry.store with ⟨err' | a, store⟩
  · have hstore : store = w.registry.store := by
      have hkept := h w.registry.store err'
      rw [hop] at hkept
      exact hkept rfl
    rw [hstore]
    exact F.refl w
  · rw [hop] at hanswer
    cases hanswer

theorem looksUp_onRegistry (wrap : ε → HandlingError) {op : RegistryM ε α}
    (h : onlyAdds.Allows op.run) : onlyLooksUp.Allows (onRegistry wrap op).run :=
  fun w => ⟨h w.registry, rfl, rfl, rfl, rfl, rfl, rfl⟩

theorem looksUp_resolve (e : Envelope) (ix : CompiledInstruction) (position : Nat) :
    onlyLooksUp.Allows (onRegistry .resolve (Registry.resolve e ix position)).run :=
  looksUp_onRegistry _ (Registry.adds_resolve e ix position)

end Refusals

/-! ## Openings and withdrawals -/

section Handling

variable {s : Setup} {e : Envelope} {ix : CompiledInstruction} {w : State}

/-- An opening is refused before its venue pauses. -/
theorem refusedWithin_handleOpening : RefusedWithin onlyLooksUp (handleOpening s e ix) := by
  refine refusedWithin_bind (looksUp_resolve e ix _) fun venue => ?_
  refine refusedWithin_get_bind fun w => ?_
  refine refusedWithin_bind_last (refusedWithin_onTrackers fun store err hrefused => ?_)
    fun _ w => ⟨(), w, rfl⟩
  -- with a status that reads nothing is refused
  cases hstatus : statusOf store venue with
  | error err' => rw [Tracking.runOn_handleOpening_error _ hstatus]
  | ok current =>
    rw [Tracking.runOn_handleOpening _ hstatus] at hrefused
    cases hrefused

/-- A pool that is drained is shown once nothing can be refused any more. -/
theorem refusedWithin_settleWithdraw (x : Withdrawn) :
    RefusedWithin onlyLooksUp (settleWithdraw s e x) := by
  refine refusedWithin_bind (looksUp_onRegistry _ (Registry.adds_nativeBalance x.keys))
    fun reserve => ?_
  by_cases hfloor : reserve ≤ s.policy.floor
  · rw [if_pos hfloor]
    refine refusedWithin_get_bind fun w => ?_
    refine refusedWithin_bind_last (refusedWithin_onTrackers fun store err hrefused => ?_)
      fun next w => ?_
    · cases hstatus : statusOf store x.venue with
      | error err' => rw [Tracking.runOn_handleWithdraw_error _ _ _ hstatus]
      | ok current =>
        rw [Tracking.runOn_handleWithdraw _ _ _ hstatus] at hrefused
        cases hrefused
    · by_cases hnext : next.isSome = true
      · rw [if_pos hnext]
        exact ⟨(), _, rfl⟩
      · rw [if_neg hnext]
        exact ⟨(), _, rfl⟩
  · rw [if_neg hfloor]
    exact refusedWithin_pure ()

theorem refusedWithin_handleWithdraw : RefusedWithin onlyLooksUp (handleWithdraw s e ix) := by
  have hfind : onlyLooksUp.Allows (findWithdrawn e ix).run := by
    refine Frame.allows_run_bind (looksUp_resolve e ix _) fun venue => ?_
    refine Frame.allows_run_bind (looksUp_onRegistry _ (Registry.adds_poolKeys venue)) fun keys => ?_
    exact Frame.allows_run_pure _
  have hwait : onlyLooksUp.Allows (wait s.policy.settle) :=
    fun w => ⟨onlyAdds.refl w.registry, rfl, rfl, rfl, rfl, rfl, rfl⟩
  refine refusedWithin_bind hfind fun x => ?_
  exact refusedWithin_bind (Frame.allows_run_lift hwait) fun _ => refusedWithin_settleWithdraw x

/-- An instruction that is an opening or a withdrawal, and is broken off. -/
inductive BreaksOff (s : Setup) (e : Envelope) (ix : CompiledInstruction) (w : State) : Prop where
  | opening {nonce : UInt8} {time quote base : UInt64} {err : HandlingError} :
      e.programOf? ix = some Address.venueProgram →
      Instruction.decodeVenue ix.data = .ok (.openPool nonce time quote base) →
      (runOn (handleOpening s e ix) w).1 = .error err → BreaksOff s e ix w
  | withdrawal {amount : UInt64} {err : HandlingError} :
      e.programOf? ix = some Address.venueProgram →
      Instruction.decodeVenue ix.data = .ok (.withdraw amount) →
      (runOn (handleWithdraw s e ix) w).1 = .error err → BreaksOff s e ix w

/-- Nothing is gathered of what is handled where it stands. -/
theorem BreaksOff.after_eq (h : BreaksOff s e ix w) (scan : Scan) : scan.after e ix = scan := by
  unfold Scan.after
  cases h with
  | opening hprogram hdecode _ =>
    rw [hprogram, hdecode]
    exact if_pos rfl
  | withdrawal hprogram hdecode _ =>
    rw [hprogram, hdecode]
    exact if_pos rfl

/-- What is broken off has looked things up, and is told of. -/
theorem BreaksOff.handleInstruction (h : BreaksOff s e ix w) : ∃ looked what err,
    ((handleInstruction s e ix).run w).2 = looked.warned e.signature what err ∧
      LooksUp w looked := by
  unfold Watcher.handleInstruction
  cases h with
  | opening hprogram hdecode hrefused =>
    rw [if_pos hprogram, hdecode]
    rcases hrun : runOn (handleOpening s e ix) w with ⟨err | _, looked⟩
    · refine ⟨looked, "initialize2", err, ?_, refusedWithin_handleOpening w err looked hrun⟩
      exact congrArg Prod.snd (run_attempt_error e.signature "initialize2" hrun)
    · rw [hrun] at hrefused
      cases hrefused
  | withdrawal hprogram hdecode hrefused =>
    rw [if_pos hprogram, hdecode]
    rcases hrun : runOn (handleWithdraw s e ix) w with ⟨err | _, looked⟩
    · refine ⟨looked, "withdraw", err, ?_, refusedWithin_handleWithdraw w err looked hrun⟩
      exact congrArg Prod.snd (run_attempt_error e.signature "withdraw" hrun)
    · rw [hrun] at hrefused
      cases hrefused

/-- One that has looked things up stands beside one that has not. -/
theorem LooksUp.beside {w' : State} (h : LooksUp w w') : Beside w' w where
  records := (Tracking.SameTrackers.refl w.registry.store).congr fun name field hfield => by
    exact ⟨h.adds.others name _ (Registry.not_isLookField hfield), rfl⟩
  looked key name _ hsome := h.adds.kept key name hsome
  trades := by
    rw [h.trades]
    exact ⟨rfl, rfl⟩
  router := h.router
  seen := h.seen
  blockhash := h.blockhash
  fired := h.fired

end Handling

/-! ## Envelopes -/

/-- The watcher when some instructions of an envelope were taken. -/
def reached (s : Setup) (e : Envelope) (w : State) (front : List CompiledInstruction) : State :=
  ((scanAll s e ⟨.none, none⟩ front).run (noteArrival s e w)).2

section Envelopes

variable {s : Setup} {e : Envelope} {w : State} {front back : List CompiledInstruction}
  {ix : CompiledInstruction}

theorem reached_eq : reached s e w front = handleEach s e (noteArrival s e w) front :=
  congrArg Prod.snd (scanAll_eq s e ⟨.none, none⟩ front (noteArrival s e w))

theorem handleEach_append (w : State) (front back : List CompiledInstruction) :
    handleEach s e w (front ++ back) = handleEach s e (handleEach s e w front) back :=
  List.foldl_append

/-- The same is gathered without an instruction of which nothing is. -/
theorem gathered_without (hinstructions : e.instructions = front ++ ix :: back)
    (hnothing : ∀ scan : Scan, scan.after e ix = scan) :
    gathered (withInstructions e (front ++ back)) = gathered e := by
  have hrest : gathered (withInstructions e (front ++ back)) =
      (front ++ back).foldl (Scan.after e) ⟨.none, none⟩ := rfl
  rw [hrest, gathered, hinstructions, List.foldl_append, List.foldl_append, List.foldl_cons,
    hnothing]

/-- An envelope is handled from where the instructions in front of one of its
    own led, through that one, to the rest. -/
theorem run_process_front (s : Setup) (hnew : w.seen.remembers w.time e.signature = false)
    (hinstructions : e.instructions = front ++ ix :: back) :
    (process s e).run w =
      (.done ((conclude s e (gathered e)).run (handleEach s e
          ((handleInstruction s e ix).run (reached s e w front)).2 back)).1,
        ((conclude s e (gathered e)).run (handleEach s e
          ((handleInstruction s e ix).run (reached s e w front)).2 back)).2) := by
  have hscanned : scanned s e w =
      handleEach s e ((handleInstruction s e ix).run (reached s e w front)).2 back := by
    unfold scanned
    rw [hinstructions, handleEach_append, handleEach_cons, reached_eq]
  rw [run_process_new s e hnew, hscanned]

/-- Without an instruction of which nothing is gathered, the rest is handled
    from where the instructions in front of it led. -/
theorem run_process_without (s : Setup) (hnew : w.seen.remembers w.time e.signature = false)
    (hinstructions : e.instructions = front ++ ix :: back)
    (hnothing : ∀ scan : Scan, scan.after e ix = scan) :
    (process s (withInstructions e (front ++ back))).run w =
      (.done ((conclude s e (gathered e)).run (handleEach s e (reached s e w front) back)).1,
        ((conclude s e (gathered e)).run (handleEach s e (reached s e w front) back)).2) := by
  rw [← gathered_without hinstructions hnothing, reached_eq, ← handleEach_append]
  exact run_process_new s (withInstructions e (front ++ back)) hnew

theorem eq_of_rel {x y : Option Nat} (h : Option.Rel Eq x y) : x = y := by
  cases h with
  | none => rfl
  | some hid => exact congrArg some hid

/-- What is left of an envelope is handled by watchers that stand beside each
    other, to the same answer. -/
theorem rest_beside (s : Setup) {K : Registry.Knowledge} (hcounts : K.reader.CountsHashes)
    (hinstructions : e.instructions = front ++ ix :: back) {w w' : State}
    (halike : BesideKnowing K w w') :
    (beside K).After Eq w w' ((conclude s e (gathered e)).run (handleEach s e w back))
      ((conclude s e (gathered e)).run (handleEach s e w' back)) := by
  have hcovers := covers_beside hcounts s
  have hback : ∀ instruction ∈ back, instruction ∈ e.instructions := by
    rw [hinstructions]
    exact fun _ h => List.mem_append_right _ (List.mem_cons_of_mem _ h)
  obtain ⟨hhandled, htold⟩ := hcovers.handleEach (finds_beside e) hback halike
  obtain ⟨hanswers, hconcluded, htold'⟩ := hcovers.conclude (finds_beside e) _ _ hhandled
  exact ⟨eq_of_rel hanswers, hconcluded, (beside K).steps.trans htold htold'⟩

/-- After what was broken off, the same is known as before. -/
theorem besideKnowing_reached {looked : State} {what : String} {err : HandlingError}
    (hfixed : w.registry.reader.IsFixed) (hcounts : w.registry.reader.CountsHashes)
    (hinstructions : e.instructions = front ++ ix :: back)
    (hhandled : ((handleInstruction s e ix).run (reached s e w front)).2 =
      looked.warned e.signature what err)
    (hlooks : LooksUp (reached s e w front) looked) :
    BesideKnowing w.registry.knowledge (looked.warned e.signature what err)
      (reached s e w front) := by
  have hcovers := covers_beside (K := w.registry.knowledge) hcounts s
  have hknows : Knows w.registry.knowledge (noteArrival s e w).registry := ⟨hfixed, rfl⟩
  have hfront : ∀ instruction ∈ front, instruction ∈ e.instructions := by
    rw [hinstructions]
    exact fun _ h => List.mem_append_left _ h
  have hix : ix ∈ e.instructions := by
    rw [hinstructions]
    exact List.mem_append_right _ List.mem_cons_self
  -- each part beside itself
  obtain ⟨hreached, -⟩ := hcovers.handleEach (finds_beside e) hfront (.refl hknows)
  rw [← reached_eq] at hreached
  have hbroken := (hcovers.handleInstruction (finds_beside e) hix _ _ hreached).alike
  rw [hhandled] at hbroken
  exact
    { hlooks.beside with
      knows := hbroken.knows
      knows' := hreached.knows
      hashReads := hlooks.adds.hashReads }

/-- Whatever the strategy is, the store holds and the node answers, as long as
    it answers the same whenever it is asked: an opening or a withdrawal that
    is broken off has looked things up, with which tables and pools may be
    added to what is kept, and is told of as a warning; nothing is gathered of
    it, no record, row or event changes and nothing is sent.  The envelope is
    answered as if the instruction were not there, and the watcher is left
    beside one that was not given it: with the same trackers and rows but for
    their times, the same ledgers, events, transactions, sightings and hash,
    and the same notices but for the warning. -/
theorem broken_off_traceless (s : Setup) (e : Envelope) (w : State)
    (hfixed : w.registry.reader.IsFixed) (hcounts : w.registry.reader.CountsHashes)
    (front back : List CompiledInstruction) (ix : CompiledInstruction)
    (hinstructions : e.instructions = front ++ ix :: back)
    (hbreaks : BreaksOff s e ix (reached s e w front)) :
    let full := (process s e).run w
    let spared := (process s (withInstructions e (front ++ back))).run w
    (∃ looked what err, LooksUp (reached s e w front) looked ∧
      ∀ scan, (scanOne s e scan ix).run (reached s e w front) =
        (scan, looked.warned e.signature what err)) ∧
    full.1 = spared.1 ∧ Beside full.2 spared.2 ∧
    (w.seen.remembers w.time e.signature = false → ∃ later warning earlier,
      full.2.notices = later ++ .warn warning :: earlier ∧
        spared.2.notices = later ++ earlier) := by
  intro full spared
  obtain ⟨looked, what, err, hhandled, hlooks⟩ := hbreaks.handleInstruction
  have hfirst : ∃ looked what err, LooksUp (reached s e w front) looked ∧
      ∀ scan, (scanOne s e scan ix).run (reached s e w front) =
        (scan, looked.warned e.signature what err) := by
    refine ⟨looked, what, err, hlooks, fun scan => ?_⟩
    rw [scanOne_eq, hbreaks.after_eq, hhandled]
  refine ⟨hfirst, ?_⟩
  cases hseen : w.seen.remembers w.time e.signature with
  | true =>
    -- of a duplicate nothing is taken, with the instruction or without it
    have hfull : full = (.duplicate, w) := run_process_duplicate s e hseen
    have hspared : spared = (.duplicate, w) :=
      run_process_duplicate s (withInstructions e (front ++ back)) hseen
    rw [hfull, hspared]
    exact ⟨rfl, .refl w, nofun⟩
  | false =>
    have hfull : full = _ := run_process_front s hseen hinstructions
    have hspared : spared = _ := run_process_without s hseen hinstructions hbreaks.after_eq
    rw [hhandled] at hfull
    -- what was broken off and what was not given the instruction stand beside each other
    have hbeside := besideKnowing_reached hfixed hcounts hinstructions hhandled hlooks
    obtain ⟨hanswer, hend, later, hnotices, hnotices'⟩ :=
      rest_beside s hcounts hinstructions hbeside
    let warning := e.signature ++ " | " ++ what ++ ": " ++ err.message
    have hwarned : (looked.warned e.signature what err).notices =
        .warn warning :: (reached s e w front).notices :=
      congrArg (Notice.warn warning :: ·) hlooks.notices
    rw [hfull, hspared]
    refine ⟨congrArg Processed.done hanswer, hend.toBeside, fun _ => ?_⟩
    exact ⟨later, warning, (reached s e w front).notices,
      hnotices.trans (congrArg (later ++ ·) hwarned), hnotices'⟩

end Envelopes

/-! ## A withdrawal behind one that names no pool -/

namespace SaleSample

/-- A withdrawal without accounts. -/
def unnamed : CompiledInstruction := ⟨0, [], [Instruction.withdrawTag]⟩

/-- The withdrawal, behind the one without accounts. -/
def preceded : Envelope := { withdrawal with instructions := [unnamed, withdrawing] }

theorem breaksOff_unnamed :
    BreaksOff setup preceded unnamed (reached setup preceded watching []) := by
  have hrefused : (runOn (handleWithdraw setup preceded unnamed)
      (reached setup preceded watching [])).1 = .error (.resolve .noAccountIndexes) := rfl
  exact .withdrawal rfl rfl hrefused

theorem countsHashes_node : node.CountsHashes := fun _ _ _ => rfl

/-- The drained pool is shown all the same. -/
theorem preceded_shown :
    BreaksOff setup preceded unnamed (reached setup preceded watching []) ∧
      ((process setup withdrawal).run watching).2.fired ≠ [] ∧
      Beside ((process setup preceded).run watching).2 ((process setup withdrawal).run watching).2 := by
  obtain ⟨-, -, hbeside, -⟩ := broken_off_traceless setup preceded watching isFixed_node
    countsHashes_node [] [withdrawing] unnamed rfl breaksOff_unnamed
  obtain ⟨keys, reserve, signature, -, hfired⟩ := showsDrained_settling
  refine ⟨breaksOff_unnamed, ?_, hbeside⟩
  rw [process_deeds, deedsOf_withdrawal, afterAll_append]
  generalize afterAll setup watching settling = w at hfired ⊢
  exact ne_of_eq_of_ne hfired (List.cons_ne_nil _ _)

end SaleSample

end PoolWatch.Watcher
