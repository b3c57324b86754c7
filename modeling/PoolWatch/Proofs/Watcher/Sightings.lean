import PoolWatch.Proofs.Watcher.Scan
import PoolWatch.Watcher.Crew

/-! # What is remembered

    A signature is noted when its envelope arrives, and at no other time.
    Whatever is done about the envelope after that lets time pass and leaves
    the sightings alone.  So what is remembered depends on the arrivals. -/

namespace PoolWatch.Watcher

/-! ## Sightings -/

namespace Sightings

variable {seen : Sightings} {time : Nat} {signature : String}

theorem remembers_iff : seen.remembers time signature = true ↔
    ∃ sighting ∈ seen, sighting.signature = signature ∧ time < sighting.expiry := by
  simp [remembers]

/-- Noting a signature drops what is forgotten by now, so nothing is lost of
    what will be remembered later. -/
theorem remembers_note {now window : Nat} {noted : String} (hlater : now ≤ time) :
    (seen.note now window noted).remembers time signature = true ↔
      (noted = signature ∧ time < now + window) ∨ seen.remembers time signature = true := by
  rw [remembers_iff, remembers_iff]
  unfold note
  rw [List.exists_mem_cons_iff]
  refine or_congr Iff.rfl ⟨?_, ?_⟩
  · rintro ⟨sighting, hmem, hsighting⟩
    exact ⟨sighting, List.mem_of_mem_filter hmem, hsighting⟩
  · rintro ⟨sighting, hmem, hsignature, htime⟩
    have hkept : now < sighting.expiry := Nat.lt_of_le_of_lt hlater htime
    exact ⟨sighting, List.mem_filter.2 ⟨hmem, decide_eq_true hkept⟩, hsignature, htime⟩

end Sightings

/-! ## The frame -/

/-- The sightings stay, and time does not go back. -/
def keepsSeen : Frame State where
  rel w w' := w'.seen = w.seen ∧ w.time ≤ w'.time
  refl _ := ⟨rfl, Nat.le_refl _⟩
  trans h h' := ⟨h'.1.trans h.1, Nat.le_trans h.2 h'.2⟩

section Frame

variable {ε α : Type}

theorem keepsSeen_withRegistry (w : State) (r : Registry) : keepsSeen.rel w (w.withRegistry r) :=
  ⟨rfl, Nat.le_refl _⟩

theorem seen_onRegistry (wrap : ε → HandlingError) (op : RegistryM ε α) :
    keepsSeen.Allows (onRegistry wrap op).run := fun w => keepsSeen_withRegistry w _

theorem seen_onTrackers (op : Tracking.TrackM α) : keepsSeen.Allows (onTrackers op).run :=
  fun w => keepsSeen_withRegistry w _

theorem seen_tell (notice : Notice) : keepsSeen.Allows (tell notice) :=
  fun _ => ⟨rfl, Nat.le_refl _⟩

theorem seen_signingHash : keepsSeen.Allows signingHash := by
  intro w
  by_cases h : w.blockhash ≠ .zero
  · have hrun : signingHash.run w = (.ok w.blockhash, w) := if_pos h
    rw [hrun]
    exact keepsSeen.refl w
  · have hrun : signingHash.run w = (w.registry.reader.blockhash w.registry.asked,
        w.withRegistry (w.registry.withAsked .blockhash)) := if_neg h
    rw [hrun]
    exact keepsSeen_withRegistry w _

theorem seen_fire (s : Setup) (trigger : Trigger) : keepsSeen.Allows (fire s trigger) := by
  intro w
  have hsend : ∀ executor intent blockhash,
      keepsSeen.Allows (carryOut executor intent blockhash) :=
    fun _ _ _ _ => ⟨rfl, Nat.le_refl _⟩
  have hshown : keepsSeen.rel w { w with fired := trigger :: w.fired } := ⟨rfl, Nat.le_refl _⟩
  exact keepsSeen.trans hshown (rel_fire seen_tell seen_signingHash hsend s trigger w)

theorem seen_record (t : Trade) : keepsSeen.Allows (record t).run := by
  refine Frame.allows_run_get_bind fun w => ?_
  cases w.trades.insert? t with
  | none => exact keepsSeen.refl w
  | some found => exact ⟨rfl, Nat.le_refl _⟩

/-- Nothing that is done about an envelope notes a signature. -/
theorem covers_keepsSeen (s : Setup) : CoversSwap keepsSeen s where
  resolve _ _ _ := seen_onRegistry _ _
  poolKeys _ := seen_onRegistry _ _
  balance _ := seen_onRegistry _ _
  opening _ _ := seen_onTrackers _
  withdraw _ _ _ := seen_onTrackers _
  fire := seen_fire s
  tell := seen_tell
  wait _ := fun _ => ⟨rfl, Nat.le_add_right _ _⟩
  record := seen_record
  selfSwap _ _ _ _ := seen_onTrackers _

end Frame

/-! ## Envelopes that have to wait -/

section Waiting

variable {s : Setup} {F : Frame State}

theorem Covers.scanOne (h : Covers F s) (e : Envelope) (scan : Scan) (ix : CompiledInstruction) :
    F.Allows (scanOne s e scan ix) := by
  intro w
  rw [scanOne_eq]
  exact h.handleInstruction e ix w

theorem CoversSwap.advance (h : CoversSwap F s) (e : Envelope) (scan : Scan)
    (instructions : List CompiledInstruction) : F.Allows (advance s e scan instructions) := by
  -- instruction by instruction, up to the one that has to wait or the swap
  induction instructions generalizing scan with
  | nil => exact Frame.allows_bind (h.conclude e scan) fun _ => Frame.allows_pure none
  | cons ix rest ih =>
    unfold Watcher.advance
    split
    · refine Frame.allows_bind (h.attempt _ _ (h.findWithdrawn e ix)) fun found => ?_
      cases found with
      | none => exact ih scan
      | some x => exact Frame.allows_get_bind fun w => F.refl w
    · exact Frame.allows_bind (h.scanOne e scan ix) fun scan' => ih scan'

theorem CoversSwap.resume (h : CoversSwap F s)
    (hclock : ∀ w time, w.time ≤ time → F.rel w { w with time }) (x : Suspended) :
    F.Allows (resume s x) := by
  refine Frame.allows_bind (Frame.allows_modify fun w => hclock w _ (Nat.le_max_left _ _))
    fun _ => ?_
  refine Frame.allows_bind (h.attempt _ _ (h.settleWithdraw x.envelope x.withdrawn)) fun _ => ?_
  exact h.advance x.envelope x.scan x.rest

end Waiting

end PoolWatch.Watcher
