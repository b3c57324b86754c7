import PoolWatch.Proofs.Registry.Pools
import PoolWatch.Proofs.Watcher.Scan

/-! # The watcher, deed by deed

    The handling of an envelope is made of deeds: it arrives, pools open,
    withdrawals are found and looked at once they have settled, and its swap
    comes last.  Between two deeds a watcher may be left alone for a while;
    within one it may not.

    Here an envelope is taken apart into its deeds, and the only thing that
    one deed has to rely on from another is seen to: what is looked at as a
    withdrawal is the venue whose keys were found. -/

namespace PoolWatch.Watcher

/-- What a watcher does without a break. -/
inductive Deed where
  | arrive (e : Envelope)
  | openPool (e : Envelope) (ix : CompiledInstruction)
  | find (e : Envelope) (ix : CompiledInstruction)
  | pause (millis : Nat)
  | settle (e : Envelope) (x : Withdrawn)
  | swap (e : Envelope) (ix : CompiledInstruction) (facts : Facts)

/-- Whether a deed is the arrival of an envelope. -/
def Deed.isArrival : Deed → Bool
  | arrive _ => true
  | _ => false

variable {s : Setup}

/-- The watcher after a deed. -/
def Deed.after (s : Setup) (w : State) : Deed → State
  | arrive e => noteArrival s e w
  | openPool e ix => ((attempt e.signature "initialize2" (handleOpening s e ix)).run w).2
  | find e ix => ((attempt e.signature "withdraw" (findWithdrawn e ix)).run w).2
  | pause millis => ((wait millis).run w).2
  | settle e x => ((attempt e.signature "withdraw" (settleWithdraw s e x)).run w).2
  | swap e ix facts => ((attempt e.signature "swap" (handleSwap s e ix facts)).run w).2

/-- The watcher after some deeds, one after the other. -/
def afterAll (s : Setup) (w : State) (deeds : List Deed) : State :=
  deeds.foldl (Deed.after s) w

theorem afterAll_cons (w : State) (d : Deed) (deeds : List Deed) :
    afterAll s w (d :: deeds) = afterAll s (d.after s w) deeds := rfl

theorem afterAll_append (w : State) (deeds more : List Deed) :
    afterAll s w (deeds ++ more) = afterAll s (afterAll s w deeds) more :=
  List.foldl_append

/-! ## The deeds of an envelope -/

section Envelopes

variable (s) (e : Envelope)

/-- The deeds of a withdrawal: the pool is found, and looked at when it has settled. -/
def withdrawalDeeds (ix : CompiledInstruction) (w : State) : List Deed :=
  .find e ix ::
    match (runOn (findWithdrawn e ix) w).1 with
    | .ok x => [.pause s.policy.settle, .settle e x]
    | .error _ => []

/-- The deeds of an instruction, where it stands. -/
def instructionDeeds (ix : CompiledInstruction) (w : State) : List Deed :=
  if e.programOf? ix = some Address.venueProgram then
    match Instruction.decodeVenue ix.data with
    | .ok (.openPool ..) => [.openPool e ix]
    | .ok (.withdraw _) => withdrawalDeeds s e ix w
    | _ => []
  else []

/-- The deeds of some instructions, one after the other. -/
def scanDeeds (w : State) : List CompiledInstruction → List Deed
  | [] => []
  | ix :: rest =>
    instructionDeeds s e ix w ++ scanDeeds (afterAll s w (instructionDeeds s e ix w)) rest

/-- The deeds of an envelope: none of a duplicate. -/
def deedsOf (w : State) : List Deed :=
  if w.seen.remembers w.time e.signature then []
  else
    .arrive e :: scanDeeds s e (noteArrival s e w) e.instructions ++
      (gathered e).swap.toList.map fun ix => .swap e ix (gathered e).facts

variable {e} {ix : CompiledInstruction}

theorem afterAll_withdrawalDeeds (w : State) :
    afterAll s w (withdrawalDeeds s e ix w) =
      ((attempt e.signature "withdraw" (handleWithdraw s e ix)).run w).2 := by
  unfold withdrawalDeeds
  rcases hfind : runOn (findWithdrawn e ix) w with ⟨err | x, w'⟩
  · have hbroken : runOn (handleWithdraw s e ix) w = (.error err, w') :=
      runOn_bind_error hfind _
    rw [run_attempt_error _ _ hbroken]
    exact congrArg Prod.snd (run_attempt_error e.signature "withdraw" hfind)
  · -- once the pool is found, what is left is to wait and to look
    have hrest : runOn (handleWithdraw s e ix) w =
        runOn (settleWithdraw s e x) ((wait s.policy.settle).run w').2 :=
      runOn_bind_ok hfind _
    have hfound : ((attempt e.signature "withdraw" (findWithdrawn e ix)).run w).2 = w' :=
      congrArg Prod.snd (run_attempt_ok e.signature "withdraw" hfind)
    show ((attempt e.signature "withdraw" (settleWithdraw s e x)).run
      ((wait s.policy.settle).run
        ((attempt e.signature "withdraw" (findWithdrawn e ix)).run w).2).2).2 = _
    rw [hfound]
    rcases hsettle : runOn (settleWithdraw s e x) ((wait s.policy.settle).run w').2
      with ⟨err | _, w''⟩
    · rw [run_attempt_error _ _ hsettle, run_attempt_error _ _ (hrest.trans hsettle)]
    · rw [run_attempt_ok _ _ hsettle, run_attempt_ok _ _ (hrest.trans hsettle)]

theorem afterAll_instructionDeeds (w : State) :
    afterAll s w (instructionDeeds s e ix w) = ((handleInstruction s e ix).run w).2 := by
  unfold instructionDeeds handleInstruction
  by_cases hprogram : e.programOf? ix = some Address.venueProgram
  · rw [if_pos hprogram, if_pos hprogram]
    cases Instruction.decodeVenue ix.data with
    | error err => rfl
    | ok decoded =>
      cases decoded with
      | withdraw amount => exact afterAll_withdrawalDeeds s w
      | _ => rfl
  · rw [if_neg hprogram, if_neg hprogram]
    rfl

theorem afterAll_scanDeeds (instructions : List CompiledInstruction) (w : State) :
    afterAll s w (scanDeeds s e w instructions) = handleEach s e w instructions := by
  induction instructions generalizing w with
  | nil => rfl
  | cons ix rest ih =>
    unfold scanDeeds
    rw [afterAll_append, ih, afterAll_instructionDeeds, handleEach_cons]

variable (e)

/-- The deeds of an envelope do what its handling does. -/
theorem process_deeds (w : State) :
    ((process s e).run w).2 = afterAll s w (deedsOf s e w) := by
  unfold deedsOf
  cases hseen : w.seen.remembers w.time e.signature with
  | true =>
    rw [run_process_duplicate s e hseen]
    rfl
  | false =>
    rw [run_process_new s e hseen, if_neg Bool.false_ne_true, List.cons_append, afterAll_cons,
      afterAll_append]
    have hscanned : afterAll s (Deed.after s w (.arrive e))
        (scanDeeds s e (noteArrival s e w) e.instructions) = scanned s e w :=
      afterAll_scanDeeds s e.instructions _
    rw [hscanned]
    cases hswap : (gathered e).swap with
    | none =>
      rw [run_conclude_none hswap]
      rfl
    | some ix =>
      rw [run_conclude_some hswap]
      rfl

end Envelopes

/-! ## Names -/

/-- Keys go on to be kept under their own venues. -/
def keepsNames : Frame State :=
  (Frame.ofProperty Registry.NamesPools).within State.registry

/-- What leaves the store alone leaves the names alone. -/
theorem keepsNames_of_store {w w' : State} (h : w'.registry.store = w.registry.store) :
    keepsNames.rel w w' :=
  fun hnames => hnames.congr fun key => by rw [h]

theorem names_onTrackers {α : Type} {op : Tracking.TrackM α}
    (h : Tracking.keepsOthers.Allows op.run) : keepsNames.Allows (onTrackers op).run :=
  fun w hnames => hnames.congr fun key => h w.registry.store key .poolKeys nofun nofun

theorem names_resolve (e : Envelope) (ix : CompiledInstruction) (position : Nat) :
    keepsNames.Allows (onRegistry .resolve (Registry.resolve e ix position)).run :=
  allows_within _ (Registry.resolve_namesPools e ix position)

theorem names_record (t : Trade) : keepsNames.Allows (record t).run := by
  refine Frame.allows_run_get_bind fun w => ?_
  cases w.trades.insert? t with
  | none => exact keepsNames.refl w
  | some found => exact keepsNames_of_store rfl

theorem covers_keepsNames (s : Setup) : CoversSwap keepsNames s where
  resolve := names_resolve
  poolKeys venue := allows_within _ (Registry.poolKeys_namesPools venue)
  balance keys := allows_within _ (Registry.nativeBalance_namesPools keys)
  opening now venue := names_onTrackers (Tracking.allows_handleOpening now venue)
  withdraw now venue reserve :=
    names_onTrackers (Tracking.allows_handleWithdraw s.policy now venue reserve)
  fire trigger w := keepsNames_of_store (fire_records s trigger w).2.1
  tell _ _ := keepsNames_of_store rfl
  wait _ _ := keepsNames_of_store rfl
  record := names_record
  selfSwap now venue amount succeeded :=
    names_onTrackers (Tracking.allows_handleSelfSwap s.policy now venue amount succeeded)

/-- A deed other than an arrival stays within what covers every part of the
    handling. -/
theorem CoversSwap.after_arrival {F : Frame State} (h : CoversSwap F s) {d : Deed}
    (hd : d.isArrival = false) (w : State) : F.rel w (d.after s w) := by
  cases d with
  | arrive e => cases hd
  | openPool e ix => exact h.attempt _ _ (h.handleOpening e ix) w
  | find e ix => exact h.attempt _ _ (h.findWithdrawn e ix) w
  | pause millis => exact h.wait millis w
  | settle e x => exact h.attempt _ _ (h.settleWithdraw e x) w
  | swap e ix facts => exact h.attempt _ _ (h.handleSwap e ix facts) w

/-- Every deed does, if arrivals do. -/
theorem CoversSwap.after {F : Frame State} (h : CoversSwap F s)
    (harrive : ∀ e w, F.rel w (noteArrival s e w)) (d : Deed) (w : State) :
    F.rel w (d.after s w) := by
  cases d with
  | arrive e => exact harrive e w
  | _ => exact h.after_arrival rfl w

theorem names_after (d : Deed) (w : State) : keepsNames.rel w (d.after s w) :=
  (covers_keepsNames s).after (fun _ _ => keepsNames_of_store rfl) d w

theorem names_afterAll (deeds : List Deed) (w : State) :
    keepsNames.rel w (afterAll s w deeds) := by
  induction deeds generalizing w with
  | nil => exact keepsNames.refl w
  | cons d rest ih => exact keepsNames.trans (names_after d w) (ih _)

/-! ## Deeds that fit together -/

/-- A withdrawal is looked at under the venue of the keys that were found. -/
def Deed.Fits : Deed → Prop
  | settle _ x => x.keys.id = x.venue
  | _ => True

theorem keys_of_onRegistry {venue : Key} {keys : PoolKeys} {w w' : State}
    (hnames : w.registry.NamesPools)
    (h : runOn (onRegistry .pool (Registry.poolKeys venue)) w = (.ok keys, w')) :
    keys.id = venue := by
  rw [runOn_onRegistry] at h
  rcases hanswer : runOn (Registry.poolKeys venue) w.registry with ⟨err | found, r⟩
  · rw [hanswer] at h
    cases h
  · rw [hanswer] at h
    obtain rfl : found = keys := Except.ok.inj (Prod.mk.inj h).1
    exact hnames.id_of_poolKeys hanswer

theorem keys_of_findWithdrawn {e : Envelope} {ix : CompiledInstruction} {x : Withdrawn}
    {w w' : State} (hnames : w.registry.NamesPools)
    (h : runOn (findWithdrawn e ix) w = (.ok x, w')) : x.keys.id = x.venue := by
  unfold findWithdrawn at h
  obtain ⟨venue, w₁, hresolve, h⟩ := runOn_bind_eq_ok h
  obtain ⟨keys, w₂, hkeys, h⟩ := runOn_bind_eq_ok h
  obtain rfl := Except.ok.inj (Prod.mk.inj h).1
  -- the keys are asked for in a registry that still names its pools
  have hnames₁ : w₁.registry.NamesPools :=
    (names_resolve e ix withdrawVenue).rel_of_runOn hresolve hnames
  exact keys_of_onRegistry hnames₁ hkeys

theorem fits_withdrawalDeeds {e : Envelope} {ix : CompiledInstruction} {w : State}
    (hnames : w.registry.NamesPools) : ∀ d ∈ withdrawalDeeds s e ix w, d.Fits := by
  unfold withdrawalDeeds
  rcases hfind : runOn (findWithdrawn e ix) w with ⟨err | x, w'⟩
  · simp [Deed.Fits]
  · simp [Deed.Fits, keys_of_findWithdrawn hnames hfind]

theorem fits_instructionDeeds {e : Envelope} {ix : CompiledInstruction} {w : State}
    (hnames : w.registry.NamesPools) : ∀ d ∈ instructionDeeds s e ix w, d.Fits := by
  unfold instructionDeeds
  split
  · split
    · simp [Deed.Fits]
    · exact fits_withdrawalDeeds hnames
    · exact List.forall_mem_nil _
  · exact List.forall_mem_nil _

theorem fits_scanDeeds {e : Envelope} (instructions : List CompiledInstruction) {w : State}
    (hnames : w.registry.NamesPools) : ∀ d ∈ scanDeeds s e w instructions, d.Fits := by
  -- the names last from one instruction to the next
  induction instructions generalizing w with
  | nil => exact List.forall_mem_nil _
  | cons ix rest ih =>
    intro d hd
    rcases List.mem_append.1 hd with hfirst | hrest
    · exact fits_instructionDeeds hnames d hfirst
    · exact ih (names_afterAll _ w hnames) d hrest

/-- The deeds of an envelope fit together. -/
theorem fits_deedsOf {e : Envelope} {w : State} (hnames : w.registry.NamesPools) :
    ∀ d ∈ deedsOf s e w, d.Fits := by
  intro d hd
  unfold deedsOf at hd
  split at hd
  · cases hd
  rcases List.mem_append.1 hd with hscan | hswap
  · rcases List.mem_cons.1 hscan with rfl | hscan
    · trivial
    · exact fits_scanDeeds e.instructions (w := noteArrival s e w) hnames d hscan
  · obtain ⟨ix, -, rfl⟩ := List.mem_map.1 hswap
    trivial

end PoolWatch.Watcher
