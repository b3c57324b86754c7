import PoolWatch.Proofs.Transaction.Wire
import PoolWatch.Proofs.Watcher.Discipline

/-! # What is signed, and with which block hash

    A transaction is built over a block hash, and a network takes it for a
    short while only.  So the hash should be the latest that the feed told of,
    and as long as it has told of none, the node is asked.

    Only arrivals touch the remembered hash (`blockhash_after`).  Every other
    deed shows one event at most, and does so as the last thing it does
    (`EndsShowing`).  So what is remembered when a deed is begun is what an
    intent is signed with, whatever else goes on. -/

namespace PoolWatch

/-! ## Transactions of an intent -/

namespace Executor

/-- A transaction of an order on a channel, signed over a message with this
    block hash, which is what its bytes read back as. -/
def Builds (x : Executor) (order : SwapOrder) (blockhash : Key) (channel : Channel)
    (tx : Transaction) : Prop :=
  ∃ m, Swap.message x.payer x.native x.options order channel blockhash = .ok m ∧
    m.blockhash = blockhash ∧ tx = .signed x.seed m ∧ Message.read? tx.message = some m

/-- All that a router was handed from one state to the next are transactions of
    an intent, each over this block hash. -/
def HandsOver (x : Executor) (intent : Intent) (blockhash : Key) (r r' : Router) : Prop :=
  ∃ handed, r'.handed = handed ++ r.handed ∧
    ∀ h ∈ handed, h.1 ∈ intent.channels ∧ x.Builds intent.order blockhash h.1 h.2

section Building

variable {x : Executor} {order : SwapOrder} {blockhash : Key} {channel : Channel}
  {tx : Transaction}

theorem builds_of_transaction (h : x.transaction order blockhash channel = .ok tx) :
    x.Builds order blockhash channel tx := by
  obtain ⟨m, hm, rfl⟩ := Swap.transaction_eq_ok h
  obtain ⟨calls, -, hcompile⟩ := Swap.message_eq_ok hm
  obtain ⟨drained, left, -, -, -, -, -, hhead⟩ := Message.compile_eq_ok hcompile
  exact ⟨m, hm, hhead.blockhash, rfl, Swap.read?_message hm⟩

/-- What is sent on one channel is handed to its submitter. -/
theorem execute_sole {submitter : Submitter} (r : Router)
    (hbuilt : x.transaction order blockhash channel = .ok tx)
    (hsubmitter : r.submitter? channel = some submitter) :
    (x.execute ⟨order, [channel]⟩ blockhash r).2.handed = (channel, tx) :: r.handed := by
  show (x.send order blockhash channel r).2.handed = _
  unfold send
  rw [hbuilt]
  dsimp only
  unfold Router.submit
  rw [hsubmitter]

/-- A send hands over nothing, or what was built. -/
theorem send_handed (x : Executor) (order : SwapOrder) (blockhash : Key) (channel : Channel)
    (r : Router) :
    (x.send order blockhash channel r).2.handed = r.handed ∨
      ∃ tx, x.Builds order blockhash channel tx ∧
        (x.send order blockhash channel r).2.handed = (channel, tx) :: r.handed := by
  unfold send
  cases hbuilt : x.transaction order blockhash channel with
  | error e => exact .inl rfl
  | ok tx =>
    dsimp only
    unfold Router.submit
    cases r.submitter? channel with
    | none => exact .inl rfl
    | some submitter => exact .inr ⟨tx, builds_of_transaction hbuilt, rfl⟩

theorem sendEach_handed (x : Executor) (order : SwapOrder) (blockhash : Key)
    (channels : List Channel) (r : Router) :
    ∃ handed, (Router.sendEach (x.send order blockhash) channels r).2.handed =
        handed ++ r.handed ∧
      ∀ h ∈ handed, h.1 ∈ channels ∧ x.Builds order blockhash h.1 h.2 := by
  induction channels generalizing r with
  | nil => exact ⟨[], rfl, List.forall_mem_nil _⟩
  | cons channel rest ih =>
    obtain ⟨handed, hrest, hbuilds⟩ := ih (x.send order blockhash channel r).2
    have hchannels : ∀ h ∈ handed, h.1 ∈ channel :: rest ∧ x.Builds order blockhash h.1 h.2 :=
      fun h hh => ⟨List.mem_cons_of_mem _ (hbuilds h hh).1, (hbuilds h hh).2⟩
    obtain hnone | ⟨tx, htx, hone⟩ := x.send_handed order blockhash channel r
    · rw [hnone] at hrest
      exact ⟨handed, hrest, hchannels⟩
    · -- the first channel is served first, so its transaction is the oldest
      rw [hone] at hrest
      refine ⟨handed ++ [(channel, tx)], ?_, ?_⟩
      · rw [List.append_assoc]
        exact hrest
      · refine List.forall_mem_append.2 ⟨hchannels, List.forall_mem_singleton.2 ?_⟩
        exact ⟨List.mem_cons_self, htx⟩

/-- What is sent of an intent is over the hash that it is sent with. -/
theorem execute_handsOver (x : Executor) (intent : Intent) (blockhash : Key) (r : Router) :
    x.HandsOver intent blockhash r (x.execute intent blockhash r).2 :=
  x.sendEach_handed intent.order blockhash intent.channels r

end Building

end Executor

namespace Watcher

open Tracking (statusOf)

/-! ## Signing -/

/-- The hash to sign with, at a state that was just reached: the latest one, if
    there is one, or else what the node answered to the last question. -/
inductive SigningHash (latest : Key) (w' : State) : Except String Key → Prop where
  | latest : latest ≠ .zero → SigningHash latest w' (.ok latest)
  | told {asked : List Query} : latest = .zero → w'.registry.asked = .blockhash :: asked →
      SigningHash latest w' (w'.registry.reader.blockhash asked)

/-- What comes of an event that is shown, when the router was `r`: nothing, if
    nothing is wanted or nobody can build it; nothing, if there is no hash to
    sign with; or else what was wanted, over that hash. -/
inductive CarriedOut (s : Setup) (latest : Key) (trigger : Trigger) (r : Router) (w' : State) :
    Prop where
  | idle : s.strategy trigger = none ∨ s.executor = none → w'.router = r →
      CarriedOut s latest trigger r w'
  | unsigned {intent : Intent} {x : Executor} {text : String} :
      s.strategy trigger = some intent → s.executor = some x →
      SigningHash latest w' (.error text) → w'.router = r → CarriedOut s latest trigger r w'
  | signed {intent : Intent} {x : Executor} {blockhash : Key} :
      s.strategy trigger = some intent → s.executor = some x →
      SigningHash latest w' (.ok blockhash) → w'.router = (x.execute intent blockhash r).2 →
      x.HandsOver intent blockhash r w'.router → CarriedOut s latest trigger r w'

/-- From one state to the next nothing is shown and nothing is sent, or one
    event is shown and carried out. -/
inductive Signs (s : Setup) (latest : Key) (w w' : State) : Prop where
  | quiet : w'.fired = w.fired → w'.router = w.router → Signs s latest w w'
  | shown (trigger : Trigger) : w'.fired = trigger :: w.fired →
      CarriedOut s latest trigger w.router w' → Signs s latest w w'

/-- What is shown, what was sent, the remembered hash and the node stay. -/
def keepsQuiet : Frame State :=
  Frame.ofView fun w => (w.fired, w.router, w.blockhash, w.registry.reader)

/-- The remembered hash and the node stay. -/
def keepsHash : Frame State :=
  Frame.ofView fun w => (w.blockhash, w.registry.reader)

section Showing

variable {s : Setup} {α β : Type} {w w₁ w' : State} {latest : Key}

theorem keepsQuiet_of_looks (h : onlyLooks.rel w w') : keepsQuiet.rel w w' := by
  obtain ⟨hrest, hreader, -, -⟩ := h
  show (w'.fired, w'.router, w'.blockhash, w'.registry.reader) = _
  rw [hreader, hrest]
  rfl

theorem keepsHash_of_quiet (h : keepsQuiet.rel w w') : keepsHash.rel w w' := by
  obtain ⟨-, hrest⟩ := Prod.mk.inj h
  obtain ⟨-, hhash⟩ := Prod.mk.inj hrest
  exact hhash

theorem quiet_record (t : Trade) : keepsQuiet.Allows (record t).run := by
  refine Frame.allows_run_get_bind fun w => ?_
  cases w.trades.insert? t with
  | none => exact keepsQuiet.refl w
  | some found => rfl

/-- The watcher once an event was noted. -/
def State.withShown (w : State) (trigger : Trigger) : State :=
  { w with fired := trigger :: w.fired }

theorem run_signingHash_latest (h : w.blockhash ≠ .zero) :
    signingHash.run w = (.ok w.blockhash, w) := if_pos h

theorem run_signingHash_told (h : w.blockhash = .zero) :
    signingHash.run w = (w.registry.reader.blockhash w.registry.asked,
      w.withRegistry (w.registry.withAsked .blockhash)) := if_neg (not_not.2 h)

section Fire

variable {trigger : Trigger} {intent : Intent} {x : Executor} {v : State}

theorem run_fire_unwanted (h : s.strategy trigger = none) (w : State) :
    (fire s trigger).run w = ((), w.withShown trigger) := by
  unfold fire
  rw [h]
  rfl

theorem run_fire_unset (h : s.strategy trigger = some intent) (hnone : s.executor = none)
    (w : State) : ∃ notices,
    (fire s trigger).run w = ((), { w.withShown trigger with notices }) := by
  unfold fire
  rw [h, hnone]
  exact ⟨_, rfl⟩

/-- What is wanted waits for a hash to sign with. -/
theorem run_fire_wanted (h : s.strategy trigger = some intent) (hsome : s.executor = some x)
    (w : State) :
    (fire s trigger).run w = StateT.run (do
      match ← signingHash with
      | .error text => tell (.fail (trigger.venue.text ++ " | no blockhash to sign with: " ++ text))
      | .ok blockhash => carryOut x intent blockhash) (w.withShown trigger) := by
  unfold fire
  rw [h, hsome]
  rfl

theorem run_fire_unsigned {text : String} (h : s.strategy trigger = some intent)
    (hsome : s.executor = some x)
    (hhash : signingHash.run (w.withShown trigger) = (.error text, v)) : ∃ notices,
    (fire s trigger).run w = ((), { v with notices }) := by
  rw [run_fire_wanted h hsome, StateT.run_bind, hhash]
  exact ⟨.fail (trigger.venue.text ++ " | no blockhash to sign with: " ++ text) :: v.notices, rfl⟩

theorem run_fire_signed {blockhash : Key} (h : s.strategy trigger = some intent)
    (hsome : s.executor = some x)
    (hhash : signingHash.run (w.withShown trigger) = (.ok blockhash, v)) : ∃ notices,
    (fire s trigger).run w =
      ((), { v with router := (x.execute intent blockhash v.router).2, notices }) := by
  rw [run_fire_wanted h hsome, StateT.run_bind, hhash]
  exact ⟨(Executor.warnings intent (x.execute intent blockhash v.router).1).reverse.map
    Notice.warn ++ v.notices, rfl⟩

/-- What there is to sign with, once it was asked for. -/
theorem signingHash_told (w : State) : ∃ answer v, signingHash.run w = (answer, v) ∧
    v.router = w.router ∧ v.fired = w.fired ∧
    ∀ router notices, SigningHash w.blockhash { v with router, notices } answer := by
  by_cases h : w.blockhash = .zero
  · exact ⟨_, _, run_signingHash_told h, rfl, rfl, fun _ _ => .told h rfl⟩
  · exact ⟨_, _, run_signingHash_latest h, rfl, rfl, fun _ _ => .latest h⟩

/-- An event that is shown is carried out with the hash that is remembered. -/
theorem fire_signs (s : Setup) (trigger : Trigger) (w : State) :
    Signs s w.blockhash w ((fire s trigger).run w).2 := by
  obtain ⟨-, -, hfired⟩ := fire_records s trigger w
  refine .shown trigger hfired ?_
  cases hintent : s.strategy trigger with
  | none =>
    rw [run_fire_unwanted hintent]
    exact .idle (.inl hintent) rfl
  | some intent =>
    cases hexecutor : s.executor with
    | none =>
      obtain ⟨notices, hrun⟩ := run_fire_unset hintent hexecutor w
      rw [hrun]
      exact .idle (.inr hexecutor) rfl
    | some x =>
      obtain ⟨answer, v, hhash, hrouter, -, hsigning⟩ := signingHash_told (w.withShown trigger)
      cases answer with
      | error text =>
        obtain ⟨notices, hrun⟩ := run_fire_unsigned hintent hexecutor hhash
        rw [hrun]
        exact .unsigned hintent hexecutor (hsigning _ _) hrouter
      | ok blockhash =>
        obtain ⟨notices, hrun⟩ := run_fire_signed hintent hexecutor hhash
        have hrouter : v.router = w.router := hrouter
        rw [hrun, hrouter]
        exact .signed hintent hexecutor (hsigning _ _) rfl (x.execute_handsOver intent _ _)

end Fire

/-! ## The last thing that is done -/

/-- Whatever an operation does, showing an event is the last of it. -/
def EndsShowing (s : Setup) (op : WatchM α) : Prop :=
  ∀ w, Signs s w.blockhash w (runOn op w).2

/-- What was done quietly before makes no difference. -/
theorem Signs.of_quiet (h : Signs s latest w₁ w') (hquiet : keepsQuiet.rel w w₁) :
    Signs s latest w w' := by
  obtain ⟨hfired, hrest⟩ := Prod.mk.inj hquiet
  obtain ⟨hrouter, -⟩ := Prod.mk.inj hrest
  cases h with
  | quiet hfired' hrouter' => exact .quiet (hfired'.trans hfired) (hrouter'.trans hrouter)
  | shown trigger hshown hcarried => exact .shown trigger (hfired ▸ hshown) (hrouter ▸ hcarried)

/-- With a latest hash, what a strategy always wants is signed with it. -/
theorem Signs.over (h : Signs s latest w w') (hshown : w'.fired ≠ w.fired) {intent : Intent}
    {x : Executor} (hintent : ∀ trigger, s.strategy trigger = some intent)
    (hexecutor : s.executor = some x) (hlatest : latest ≠ .zero) :
    w'.router = (x.execute intent latest w.router).2 ∧
      x.HandsOver intent latest w.router w'.router := by
  cases h with
  | quiet hquiet _ => exact absurd hquiet hshown
  | shown trigger _ hcarried =>
    have hintent := hintent trigger
    cases hcarried with
    | idle hidle _ =>
      rw [hintent, hexecutor] at hidle
      exact hidle.elim nofun nofun
    | @unsigned wanted x' text _ _ hnone _ =>
      generalize hanswer : Except.error text = answer at hnone
      cases hnone with
      | latest _ => cases hanswer
      | told hzero _ => exact absurd hzero hlatest
    | @signed wanted x' blockhash hwanted hexecutor' hsome hrouter hhanded =>
      obtain rfl : wanted = intent := Option.some.inj (hwanted.symm.trans hintent)
      obtain rfl : x' = x := Option.some.inj (hexecutor'.symm.trans hexecutor)
      generalize hanswer : Except.ok blockhash = answer at hsome
      cases hsome with
      | latest _ =>
        obtain rfl := Except.ok.inj hanswer
        exact ⟨hrouter, hhanded⟩
      | told hzero _ => exact absurd hzero hlatest

theorem signs_of_quiet (h : keepsQuiet.rel w w') : Signs s latest w w' := by
  obtain ⟨hfired, hrest⟩ := Prod.mk.inj h
  obtain ⟨hrouter, -⟩ := Prod.mk.inj hrest
  exact .quiet hfired hrouter

theorem endsShowing_of_quiet {op : WatchM α} (h : keepsQuiet.Allows op.run) : EndsShowing s op :=
  fun w => signs_of_quiet (h w)

theorem endsShowing_bind {op : WatchM α} {next : α → WatchM β} (h : keepsQuiet.Allows op.run)
    (hnext : ∀ a, EndsShowing s (next a)) : EndsShowing s (op >>= next) := by
  intro w
  rcases hop : runOn op w with ⟨err | a, w₁⟩
  · rw [runOn_bind_error hop]
    exact signs_of_quiet (h.rel_of_runOn hop)
  · have hquiet := h.rel_of_runOn hop
    have hhash : w₁.blockhash = w.blockhash := (Prod.mk.inj (keepsHash_of_quiet hquiet)).1
    rw [runOn_bind_ok hop]
    have hrest := hnext a w₁
    rw [hhash] at hrest
    exact hrest.of_quiet hquiet

theorem endsShowing_get_bind {next : State → WatchM α} (h : ∀ w, EndsShowing s (next w)) :
    EndsShowing s (get >>= next) :=
  fun w => h w w

theorem endsShowing_fire (trigger : Trigger) :
    EndsShowing s (liftM (fire s trigger) : WatchM Unit) :=
  fun w => fire_signs s trigger w

/-- To answer something is nothing more to do. -/
theorem endsShowing_fire_bind (trigger : Trigger) (a : α) :
    EndsShowing s (liftM (fire s trigger) >>= fun _ => pure a : WatchM α) :=
  fun w => fire_signs s trigger w

theorem quiet_onTrackers (op : Tracking.TrackM α) : keepsQuiet.Allows (onTrackers op).run :=
  fun _ => rfl

theorem settleWithdraw_endsShowing (e : Envelope) (x : Withdrawn) :
    EndsShowing s (settleWithdraw s e x) := by
  have hbalance : keepsQuiet.Allows (onRegistry .pool (Registry.nativeBalance x.keys)).run :=
    fun w => keepsQuiet_of_looks (allows_nativeBalance x.keys w)
  refine endsShowing_bind hbalance fun reserve => ?_
  by_cases hfloor : reserve ≤ s.policy.floor
  · rw [if_pos hfloor]
    refine endsShowing_get_bind fun w => ?_
    refine endsShowing_bind (quiet_onTrackers _) fun next => ?_
    by_cases hnext : next.isSome = true
    · rw [if_pos hnext]
      exact endsShowing_fire _
    · rw [if_neg hnext]
      exact endsShowing_of_quiet (Frame.allows_run_pure _)
  · rw [if_neg hfloor]
    exact endsShowing_of_quiet (Frame.allows_run_pure _)

theorem handleSwap_endsShowing (e : Envelope) (ix : CompiledInstruction) (facts : Facts) :
    EndsShowing s (handleSwap s e ix facts) := by
  have hsite : keepsQuiet.Allows (swapSite e ix).run :=
    fun w => keepsQuiet_of_looks (allows_swapSite e ix w)
  refine endsShowing_bind hsite fun site => ?_
  refine endsShowing_bind (quiet_onTrackers _) fun status => ?_
  dsimp only
  split
  · exact endsShowing_of_quiet (Frame.allows_run_pure none)
  -- what is recorded is drawn on a ledger, or shown at the very end
  refine endsShowing_get_bind fun w => ?_
  refine endsShowing_bind (quiet_record _) fun id => ?_
  split
  · refine endsShowing_get_bind fun w => ?_
    exact endsShowing_bind (quiet_onTrackers _) fun _ =>
      endsShowing_of_quiet (Frame.allows_run_pure _)
  · exact endsShowing_fire_bind _ _

/-- A warning is nothing that is shown. -/
theorem EndsShowing.attempt {op : WatchM α} (h : EndsShowing s op) (signature what : String)
    (w : State) : Signs s w.blockhash w ((attempt signature what op).run w).2 := by
  have hop := h w
  rcases hrun : runOn op w with ⟨err | a, w'⟩
  · rw [hrun] at hop
    rw [run_attempt_error _ _ hrun]
    cases hop with
    | quiet hfired hrouter => exact .quiet hfired hrouter
    | shown trigger hfired hcarried =>
      refine .shown trigger hfired ?_
      have hsame : ∀ answer, SigningHash w.blockhash w' answer →
          SigningHash w.blockhash (w'.warned signature what err) answer := by
        rintro answer (hlatest | ⟨hzero, hasked⟩)
        · exact .latest hlatest
        · exact .told hzero hasked
      cases hcarried with
      | idle hidle hrouter => exact .idle hidle hrouter
      | unsigned hintent hexecutor hhash hrouter =>
        exact .unsigned hintent hexecutor (hsame _ hhash) hrouter
      | signed hintent hexecutor hhash hrouter hhanded =>
        exact .signed hintent hexecutor (hsame _ hhash) hrouter hhanded
  · rw [hrun] at hop
    rw [run_attempt_ok _ _ hrun]
    exact hop

end Showing

/-! ## Deeds -/

section Deeds

variable {s : Setup} {w : State}

/-- A deed shows one event at most, and what is wanted of it is signed with
    the hash that was remembered when the deed was begun. -/
theorem Deed.signs (d : Deed) (w : State) : Signs s w.blockhash w (d.after s w) := by
  have hlooks : ∀ {α : Type} {op : WatchM α}, onlyLooks.Allows op.run → EndsShowing s op :=
    fun h => endsShowing_of_quiet fun w => keepsQuiet_of_looks (h w)
  cases d with
  | arrive e => exact .quiet rfl rfl
  | openPool e ix =>
    have hopening : EndsShowing s (handleOpening s e ix) := by
      refine endsShowing_bind (fun w => keepsQuiet_of_looks (allows_resolve e ix _ w)) fun venue => ?_
      refine endsShowing_get_bind fun w => ?_
      exact endsShowing_bind (quiet_onTrackers _) fun _ =>
        endsShowing_of_quiet (Frame.allows_run_pure _)
    exact hopening.attempt _ _ w
  | find e ix => exact (hlooks (allows_findWithdrawn e ix)).attempt _ _ w
  | pause millis => exact .quiet rfl rfl
  | settle e x => exact (settleWithdraw_endsShowing e x).attempt _ _ w
  | swap e ix facts => exact (handleSwap_endsShowing e ix facts).attempt _ _ w

theorem hash_signingHash : keepsHash.Allows signingHash := by
  intro w
  by_cases h : w.blockhash = .zero
  · rw [run_signingHash_told h]
    rfl
  · rw [run_signingHash_latest h]
    rfl

/-- Nothing that is done about an envelope touches the remembered hash. -/
theorem covers_keepsHash (s : Setup) : CoversSwap keepsHash s where
  resolve e ix position w :=
    keepsHash_of_quiet (keepsQuiet_of_looks (allows_resolve e ix position w))
  poolKeys venue w := keepsHash_of_quiet (keepsQuiet_of_looks (allows_poolKeys venue w))
  balance keys w := keepsHash_of_quiet (keepsQuiet_of_looks (allows_nativeBalance keys w))
  opening _ _ _ := rfl
  withdraw _ _ _ _ := rfl
  fire trigger w :=
    rel_fire (fun _ _ => rfl) hash_signingHash (fun _ _ _ _ => rfl) s trigger w
  tell _ _ := rfl
  wait _ _ := rfl
  record t w := keepsHash_of_quiet (quiet_record t w)
  selfSwap _ _ _ _ _ := rfl

/-- The hash that a deed tells of: only arrivals do, unless it is zero. -/
def Deed.hash? : Deed → Option Key
  | arrive e => if e.recentBlockhash ≠ .zero then some e.recentBlockhash else none
  | _ => none

/-- The latest hash that some deeds told of, and zero if they told of none. -/
def latestHash (deeds : List Deed) : Key :=
  ((deeds.filterMap Deed.hash?).getLast?).getD .zero

theorem latestHash_concat (deeds : List Deed) (d : Deed) :
    latestHash (deeds ++ [d]) = d.hash?.getD (latestHash deeds) := by
  unfold latestHash
  rw [List.filterMap_append, List.getLast?_append]
  cases h : d.hash? <;> simp [h]

@[simp] theorem hash?_arrive (e : Envelope) :
    (Deed.arrive e).hash? =
      if e.recentBlockhash ≠ .zero then some e.recentBlockhash else none := rfl

theorem hash?_of_not_arrival {d : Deed} (h : d.isArrival = false) : d.hash? = none := by
  cases d with
  | arrive e => cases h
  | _ => rfl

/-- A deed that tells of no hash leaves the remembered one; so does one that
    tells of the zero hash. -/
theorem blockhash_after (d : Deed) (w : State) :
    (d.after s w).blockhash = d.hash?.getD w.blockhash ∧
      (d.after s w).registry.reader = w.registry.reader := by
  cases hd : d.isArrival with
  | false =>
    rw [hash?_of_not_arrival hd]
    exact Prod.mk.inj ((covers_keepsHash s).after_arrival hd w)
  | true =>
    cases d with
    | arrive e =>
      rw [hash?_arrive]
      by_cases hzero : e.recentBlockhash ≠ .zero
      · rw [if_pos hzero]
        exact ⟨if_pos hzero, rfl⟩
      · rw [if_neg hzero]
        exact ⟨if_neg hzero, rfl⟩
    | _ => cases hd

theorem blockhash_afterAll (h : w.blockhash = .zero) (deeds : List Deed) :
    (afterAll s w deeds).blockhash = latestHash deeds ∧
      (afterAll s w deeds).registry.reader = w.registry.reader := by
  induction deeds using List.reverseRecOn with
  | nil => exact ⟨h, rfl⟩
  | append_singleton earlier d ih =>
    obtain ⟨hhash, hreader⟩ := ih
    obtain ⟨hhash', hreader'⟩ := blockhash_after (s := s) d (afterAll s w earlier)
    rw [afterAll_append, latestHash_concat, ← hhash]
    exact ⟨hhash', hreader'.trans hreader⟩

/-- No hash that is told of is the zero hash. -/
theorem hash?_ne_zero {d : Deed} {blockhash : Key} (h : d.hash? = some blockhash) :
    blockhash ≠ .zero := by
  cases d with
  | arrive e =>
    rw [hash?_arrive] at h
    by_cases hzero : e.recentBlockhash ≠ .zero
    · rw [if_pos hzero] at h
      exact Option.some.inj h ▸ hzero
    · rw [if_neg hzero] at h
      cases h
  | _ => cases h

/-- Once there is a latest hash, there goes on to be one. -/
theorem latestHash_ne_zero {deeds : List Deed} (h : latestHash deeds ≠ .zero) (d : Deed) :
    latestHash (deeds ++ [d]) ≠ .zero := by
  rw [latestHash_concat]
  cases hd : d.hash? with
  | none => exact h
  | some blockhash => exact hash?_ne_zero hd

/-! ## The deeds of an envelope -/

theorem isArrival_instructionDeeds (s : Setup) (e : Envelope) (ix : CompiledInstruction)
    (w : State) : ∀ d ∈ instructionDeeds s e ix w, d.isArrival = false := by
  unfold instructionDeeds
  by_cases hprogram : e.programOf? ix = some Address.venueProgram
  · rw [if_pos hprogram]
    cases Instruction.decodeVenue ix.data with
    | error err => exact List.forall_mem_nil _
    | ok decoded =>
      cases decoded with
      | openPool => exact List.forall_mem_singleton.2 rfl
      | withdraw amount =>
        dsimp only
        unfold withdrawalDeeds
        refine List.forall_mem_cons.2 ⟨rfl, ?_⟩
        cases (runOn (findWithdrawn e ix) w).1 with
        | error err => exact List.forall_mem_nil _
        | ok x =>
          exact List.forall_mem_cons.2 ⟨rfl, List.forall_mem_singleton.2 rfl⟩
      | _ => exact List.forall_mem_nil _
  · rw [if_neg hprogram]
    exact List.forall_mem_nil _

theorem isArrival_scanDeeds (s : Setup) (e : Envelope) (instructions : List CompiledInstruction)
    (w : State) : ∀ d ∈ scanDeeds s e w instructions, d.isArrival = false := by
  induction instructions generalizing w with
  | nil => exact List.forall_mem_nil _
  | cons ix rest ih =>
    exact List.forall_mem_append.2 ⟨isArrival_instructionDeeds s e ix w, ih _⟩

/-- An envelope that is remembered is no deed at all; any other arrives first,
    and nothing else arrives while it is handled. -/
theorem deedsOf_arrival (s : Setup) (e : Envelope) (w : State) :
    (w.seen.remembers w.time e.signature = true ∧ deedsOf s e w = []) ∨
      (w.seen.remembers w.time e.signature = false ∧
        ∃ rest, deedsOf s e w = .arrive e :: rest ∧ ∀ d ∈ rest, d.isArrival = false) := by
  unfold deedsOf
  cases hseen : w.seen.remembers w.time e.signature with
  | true => exact .inl ⟨rfl, if_pos rfl⟩
  | false =>
    refine .inr ⟨rfl, _, if_neg Bool.false_ne_true, ?_⟩
    refine List.forall_mem_append.2 ⟨isArrival_scanDeeds s e e.instructions _, ?_⟩
    refine List.forall_mem_map.2 fun ix _ => rfl

/-- Whatever is done, in whatever order, by a watcher that starts without a
    hash: the hash that it remembers is the latest that arrived and is not the
    zero hash, and once there is one, there goes on to be one.  Every deed
    shows one event at most, and what the strategy wants of it is built over
    the remembered hash; as long as there is none, over the hash that the node
    answers at that moment; and if the node does not answer, nothing is sent.

    What is done about an envelope is done so; of what is remembered, nothing
    is done. -/
theorem signed_with_latest {s : Setup} {w₀ : State} (hstart : w₀.blockhash = .zero)
    (deeds : List Deed) :
    (afterAll s w₀ deeds).blockhash = latestHash deeds ∧
    (afterAll s w₀ deeds).registry.reader = w₀.registry.reader ∧
    (∀ earlier d later, deeds = earlier ++ d :: later →
      (latestHash earlier ≠ .zero → latestHash (earlier ++ [d]) ≠ .zero) ∧
      Signs s (latestHash earlier) (afterAll s w₀ earlier)
        (d.after s (afterAll s w₀ earlier))) ∧
    (∀ w, Watches s w₀ deeds w → w = afterAll s w₀ deeds) ∧
    ∀ (e : Envelope) (w : State),
      ((process s e).run w).2 = afterAll s w (deedsOf s e w) ∧
      ((w.seen.remembers w.time e.signature = true ∧ deedsOf s e w = []) ∨
        (w.seen.remembers w.time e.signature = false ∧
          ∃ rest, deedsOf s e w = .arrive e :: rest ∧ ∀ d ∈ rest, d.isArrival = false)) := by
  obtain ⟨hhash, hreader⟩ := blockhash_afterAll (s := s) hstart deeds
  refine ⟨hhash, hreader, ?_, fun w => Watches.after,
    fun e w => ⟨process_deeds s e w, deedsOf_arrival s e w⟩⟩
  rintro earlier d later rfl
  refine ⟨fun h => latestHash_ne_zero h d, ?_⟩
  obtain ⟨hearlier, -⟩ := blockhash_afterAll (s := s) hstart earlier
  rw [← hearlier]
  exact d.signs (afterAll s w₀ earlier)

end Deeds

/-! ## A withdrawal that is answered -/

theorem ShowsDrained.fired_ne {s : Setup} {w : State} {venue : Key} {d : Deed}
    (h : ShowsDrained s w venue d) : (d.after s w).fired ≠ w.fired := by
  obtain ⟨keys, reserve, signature, -, hfired⟩ := h
  rw [hfired]
  exact List.cons_ne_self _ _

namespace SaleSample

/-- The sale of the venue's token, straight to a node. -/
def intent : Intent := ⟨order Address.orderBookProgram, [.direct]⟩

/-- The watcher of a bot that sells on every event. -/
def eager : Setup := { setup with strategy := fun _ => some intent }

/-- The watcher, with a node to send to that refuses everything. -/
def connected : State :=
  { watching with router := Router.empty.withSubmitter .direct fun _ _ => .error .nodeRefused }

/-- The withdrawal, with a block hash. -/
def hashed : Envelope := { withdrawal with recentBlockhash := .ofNat 77 }

/-- The watcher once the feed told of a hash. -/
def informed : State := afterAll eager connected [.arrive hashed]

/-- The look at the withdrawal once it has settled. -/
def looking : Deed := .settle withdrawal withdrawn

/-- The sale can be built over the hash. -/
theorem exists_hashedSale : ∃ tx,
    executor.transaction (order Address.orderBookProgram) (.ofNat 77) .direct = .ok tx := by
  obtain ⟨m, hm⟩ : ∃ m, Swap.message (keyOfSeed executor.seed) executor.native executor.options
      (order Address.orderBookProgram) .direct (.ofNat 77) = .ok m :=
    Swap.exists_message (Swap.calls_eq (mint_order Address.orderBookProgram)) nofun
  refine ⟨.signed executor.seed m, ?_⟩
  unfold Executor.transaction Swap.transaction
  rw [hm]
  rfl

/-- Once the feed told of a hash, the sale on a drained pool is signed with it:
    the node is handed a transaction, and its bytes name the hash. -/
theorem withdrawal_signed : informed.blockhash = .ofNat 77 ∧
    (looking.after eager informed).router =
      (executor.execute intent (.ofNat 77) informed.router).2 ∧
    executor.HandsOver intent (.ofNat 77) informed.router
      (looking.after eager informed).router ∧
    ∃ tx m, (looking.after eager informed).router.handed = [(.direct, tx)] ∧
      Message.read? tx.message = some m ∧ m.blockhash = .ofNat 77 := by
  have hstart : connected.blockhash = .zero := rfl
  have hlatest : latestHash [.arrive hashed] = .ofNat 77 := by decide
  obtain ⟨hhash, -⟩ := signed_with_latest (s := eager) hstart [.arrive hashed]
  obtain ⟨-, -, hdeeds, -, -⟩ := signed_with_latest (s := eager) hstart [.arrive hashed, looking]
  obtain ⟨-, hsigns⟩ := hdeeds [.arrive hashed] looking [] rfl
  rw [hlatest] at hhash hsigns
  -- the pool is drained, so something is shown
  have hreader : informed.registry.reader = node := rfl
  have hstatus : statusOf informed.registry.store venue = .ok .notTracked :=
    Tracking.statusOf_empty venue
  have hdrained : ShowsDrained eager informed venue looking :=
    showsDrained_withdrawal (s := eager) rfl hreader hstatus
  obtain ⟨hrouter, hhanded⟩ := hsigns.over hdrained.fired_ne (fun _ => rfl) rfl (by decide)
  -- the node is connected, so it is handed what was built
  obtain ⟨tx, htx⟩ := exists_hashedSale
  have hnode : informed.router.submitter? .direct = some fun _ _ => .error .nodeRefused := rfl
  have hone := Executor.execute_sole informed.router htx hnode
  obtain ⟨m, -, hblockhash, -, hread⟩ := Executor.builds_of_transaction htx
  exact ⟨hhash, hrouter, hhanded, tx, m, hrouter ▸ hone, hread, hblockhash⟩

end SaleSample

end Watcher

end PoolWatch
