import PoolWatch.Proofs.Watcher.Swap

/-! # A scan, taken apart

    A scan does two things at once.  It gathers what the instructions say
    about the swap, and it handles openings and withdrawals where they stand.
    Neither looks at the other: what is gathered depends on the envelope
    alone, and what is handled does not depend on what was gathered.  So a
    scan is two walks over the same instructions, and an envelope that is no
    duplicate goes through arrival, instructions and swap in this order. -/

namespace PoolWatch.Watcher

/-! ## Gathering -/

/-- What was gathered, once an instruction is taken as well. -/
def Scan.after (e : Envelope) (scan : Scan) (ix : CompiledInstruction) : Scan :=
  match e.programOf? ix with
  | none => scan
  | some program =>
    if program = Address.venueProgram then
      match Instruction.decodeVenue ix.data with
      | .ok (.swapBaseIn ..) => { scan with swap := some ix }
      | _ => scan
    else if program = Address.computeBudgetProgram then
      { scan with facts := scan.facts.afterBudget ix.data }
    else if program = Address.systemProgram then
      { scan with facts := scan.facts.afterTransfer e ix }
    else scan

/-- What is gathered of a whole envelope. -/
def gathered (e : Envelope) : Scan :=
  e.instructions.foldl (Scan.after e) ⟨.none, none⟩

/-! ## Handling -/

/-- Handles an instruction where it stands; only openings and withdrawals are. -/
def handleInstruction (s : Setup) (e : Envelope) (ix : CompiledInstruction) :
    StateM State Unit :=
  if e.programOf? ix = some Address.venueProgram then
    match Instruction.decodeVenue ix.data with
    | .ok (.openPool ..) => discard (attempt e.signature "initialize2" (handleOpening s e ix))
    | .ok (.withdraw _) => discard (attempt e.signature "withdraw" (handleWithdraw s e ix))
    | _ => pure ()
  else pure ()

/-- The watcher once some instructions were handled. -/
def handleEach (s : Setup) (e : Envelope) (w : State) (instructions : List CompiledInstruction) :
    State :=
  instructions.foldl (fun w ix => ((handleInstruction s e ix).run w).2) w

section Handling

variable {s : Setup} {e : Envelope}

/-- To handle an instruction is to do nothing, or to attempt one of the two handlings. -/
theorem Covers.handleInstruction {F : Frame State} (h : Covers F s) (e : Envelope)
    (ix : CompiledInstruction) : F.Allows (handleInstruction s e ix) := by
  unfold Watcher.handleInstruction
  by_cases hprogram : e.programOf? ix = some Address.venueProgram
  · rw [if_pos hprogram]
    cases Instruction.decodeVenue ix.data with
    | error err => exact Frame.allows_pure ()
    | ok decoded =>
      cases decoded with
      | openPool => exact h.attempt e.signature "initialize2" (h.handleOpening e ix)
      | withdraw => exact h.attempt e.signature "withdraw" (h.handleWithdraw e ix)
      | _ => exact Frame.allows_pure ()
  · rw [if_neg hprogram]
    exact Frame.allows_pure ()

theorem handleEach_cons (ix : CompiledInstruction) (w : State) (rest : List CompiledInstruction) :
    handleEach s e w (ix :: rest) =
      handleEach s e ((handleInstruction s e ix).run w).2 rest := rfl

theorem Covers.handleEach {F : Frame State} (h : Covers F s) (e : Envelope)
    (instructions : List CompiledInstruction) (w : State) :
    F.rel w (handleEach s e w instructions) := by
  induction instructions generalizing w with
  | nil => exact F.refl w
  | cons ix rest ih =>
    rw [handleEach_cons]
    exact F.trans (h.handleInstruction e ix w) (ih _)

end Handling

/-! ## The two walks -/

section Walks

variable (s : Setup) (e : Envelope)

theorem scanOne_eq (scan : Scan) (ix : CompiledInstruction) (w : State) :
    (scanOne s e scan ix).run w = (scan.after e ix, ((handleInstruction s e ix).run w).2) := by
  unfold scanOne Scan.after handleInstruction
  cases hprogram : e.programOf? ix with
  | none => rfl
  | some program =>
    dsimp only
    by_cases hvenue : program = Address.venueProgram
    · -- only here does anything happen beside gathering
      subst hvenue
      rw [if_pos rfl, if_pos rfl, if_pos rfl]
      unfold scanVenue
      cases Instruction.decodeVenue ix.data with
      | error err => rfl
      | ok decoded => cases decoded <;> rfl
    · have hne : ¬ some program = some Address.venueProgram := fun h => hvenue (Option.some.inj h)
      rw [if_neg hvenue, if_neg hvenue, if_neg hne]
      split
      · rfl
      split <;> rfl

theorem scanAll_eq (scan : Scan) (instructions : List CompiledInstruction) (w : State) :
    (scanAll s e scan instructions).run w =
      (instructions.foldl (Scan.after e) scan, handleEach s e w instructions) := by
  -- one instruction after the other, from whatever was gathered and done before
  induction instructions generalizing scan w with
  | nil => rfl
  | cons ix rest ih =>
    have hone := scanOne_eq s e scan ix w
    show (scanAll s e ((scanOne s e scan ix).run w).1 rest).run
      ((scanOne s e scan ix).run w).2 = _
    rw [hone]
    exact ih _ _

/-- The watcher once an envelope has arrived and its instructions were handled. -/
def scanned (w : State) : State :=
  handleEach s e (noteArrival s e w) e.instructions

/-- A duplicate changes nothing. -/
theorem run_process_duplicate {w : State} (h : w.seen.remembers w.time e.signature = true) :
    (process s e).run w = (.duplicate, w) := by
  have hprocess : (process s e).run w = StateT.run
      (if w.seen.remembers w.time e.signature = true then pure .duplicate
        else do pure (.done (← handle s e))) w := rfl
  rw [hprocess, if_pos h]
  rfl

/-- An envelope that is no duplicate: its instructions, and the swap at the end. -/
theorem run_process_new {w : State} (h : w.seen.remembers w.time e.signature = false) :
    (process s e).run w =
      (.done ((conclude s e (gathered e)).run (scanned s e w)).1,
        ((conclude s e (gathered e)).run (scanned s e w)).2) := by
  have hprocess : (process s e).run w = StateT.run
      (if w.seen.remembers w.time e.signature = true then pure .duplicate
        else do pure (.done (← handle s e))) w := rfl
  have hscan := scanAll_eq s e ⟨.none, none⟩ e.instructions (noteArrival s e w)
  rw [hprocess, h, if_neg Bool.false_ne_true]
  have hhandle : (handle s e).run w =
      (conclude s e ((scanAll s e ⟨.none, none⟩ e.instructions).run (noteArrival s e w)).1).run
        ((scanAll s e ⟨.none, none⟩ e.instructions).run (noteArrival s e w)).2 := rfl
  rw [hscan] at hhandle
  show (Processed.done ((handle s e).run w).1, ((handle s e).run w).2) = _
  rw [hhandle]
  rfl

end Walks

/-! ## The swap at the end -/

section Conclusion

variable {s : Setup} {e : Envelope} {w : State}

theorem run_conclude_none {scan : Scan} (h : scan.swap = none) :
    (conclude s e scan).run w = (none, w) := by
  unfold conclude
  rw [h]
  rfl

theorem run_conclude_some {scan : Scan} {ix : CompiledInstruction} (h : scan.swap = some ix) :
    (conclude s e scan).run w =
      (((attempt e.signature "swap" (handleSwap s e ix scan.facts)).run w).1.join,
        ((attempt e.signature "swap" (handleSwap s e ix scan.facts)).run w).2) := by
  unfold conclude
  rw [h]
  rfl

theorem CoversSwapActs.conclude {F : Frame State} (h : CoversSwapActs F s) (e : Envelope) (scan : Scan) :
    F.Allows (conclude s e scan) := by
  unfold Watcher.conclude
  cases scan.swap with
  | none => exact Frame.allows_pure none
  | some ix =>
    exact Frame.allows_bind (h.attempt _ _ (h.handleSwap e ix scan.facts)) fun _ =>
      Frame.allows_pure _

/-- Once an envelope that is no duplicate has arrived, its handling stays
    within a frame that covers it. -/
theorem CoversSwap.process {F : Frame State} (h : CoversSwap F s)
    (hnew : w.seen.remembers w.time e.signature = false) :
    F.rel (noteArrival s e w) ((process s e).run w).2 := by
  rw [run_process_new s e hnew]
  exact F.trans (h.handleEach e e.instructions _) (h.conclude e (gathered e) (scanned s e w))

end Conclusion

/-! ## Attempts -/

section Attempts

variable {α : Type} {op : WatchM α} {w w' : State}

/-- The watcher once a handling that was broken off was told of. -/
def State.warned (w : State) (signature what : String) (err : HandlingError) : State :=
  { w with notices := .warn (signature ++ " | " ++ what ++ ": " ++ err.message) :: w.notices }

theorem run_attempt_ok {a : α} (signature what : String) (h : runOn op w = (.ok a, w')) :
    (attempt signature what op).run w = (some a, w') := by
  unfold attempt
  rw [StateT.run_bind, show op.run.run w = (.ok a, w') from h]
  rfl

theorem run_attempt_error {err : HandlingError} (signature what : String)
    (h : runOn op w = (.error err, w')) :
    (attempt signature what op).run w = (none, w'.warned signature what err) := by
  unfold attempt
  rw [StateT.run_bind, show op.run.run w = (.error err, w') from h]
  rfl

end Attempts

end PoolWatch.Watcher
