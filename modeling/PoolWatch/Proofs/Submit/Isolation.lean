import PoolWatch.Executor
import PoolWatch.Proofs.Bytes
import PoolWatch.Proofs.Transaction.ReadBack
import PoolWatch.Proofs.Transaction.Wire

/-! # Channels apart

    Sends on several channels are answered one by one, in the order of the
    channels.  The answer of a send depends on what was built for its channel,
    on the channel's submitter, and on what that submitter was handed before;
    the sends in between on other channels leave all of this as it is.  So
    what a channel sees of many sends is what it sees of its own, however
    many others there are and wherever they stand in between.

    The calls that go out differ on the paid relay only, by the tip and the
    memo at the end; no other channel's calls move any lamports.  What goes
    out is bytes, so this is said of the calls that the bytes read back as. -/

namespace PoolWatch

/-! ## One send -/

namespace Router

/-- What was built for each channel, or why it could not be built. -/
abbrev Built := Channel → Except SubmitError Transaction

/-- Hands over what was built for a channel; what could not be built is not
    handed to anyone. -/
def hand (built : Built) (channel : Channel) (r : Router) : Submission × Router :=
  match built channel with
  | .error e => (.error e, r)
  | .ok tx => r.submit channel tx

/-- The answer of a channel to what was built for it, after `before` sends of it. -/
def answer (r : Router) (built : Built) (channel : Channel) (before : Nat) : Submission :=
  match built channel with
  | .error e => .error e
  | .ok tx =>
    match r.submitter? channel with
    | none => .error (.notConfigured channel)
    | some submitter => submitter (List.replicate before tx ++ r.history channel) tx

/-- What the submitter of a channel is handed by `count` sends. -/
def taken (r : Router) (built : Built) (channel : Channel) (count : Nat) : List Transaction :=
  match built channel, r.submitter? channel with
  | .ok tx, some _ => List.replicate count tx
  | _, _ => []

variable {r r' : Router} {built : Built} {c d : Channel}

@[simp] theorem taken_zero : r.taken built c 0 = [] := by
  unfold taken
  split <;> rfl

/-- All that is handed over was built for the channel. -/
theorem built_of_mem_taken {count : Nat} {tx : Transaction} (h : tx ∈ r.taken built c count) :
    built c = .ok tx := by
  unfold taken at h
  split at h
  · next hbuilt _ => rw [hbuilt, List.eq_of_mem_replicate h]
  · cases h

/-- What is not built, or has no submitter, is handed to no one. -/
theorem hand_eq_self (h : ∀ tx, built d = .ok tx → r.submitter? d = none) :
    (hand built d r).2 = r := by
  unfold hand
  cases hbuilt : built d with
  | error e => rfl
  | ok tx => simp [submit, h tx hbuilt]

theorem hand_of_submitter {tx : Transaction} {submitter : Submitter} (hbuilt : built d = .ok tx)
    (hsubmitter : r.submitter? d = some submitter) :
    hand built d r =
      (submitter (r.history d) tx, { r with handed := (d, tx) :: r.handed }) := by
  simp [hand, submit, hbuilt, hsubmitter]

theorem hand_fst : (hand built d r).1 = r.answer built d 0 := by
  unfold hand answer
  cases hbuilt : built d with
  | error e => rfl
  | ok tx =>
    cases hsubmitter : r.submitter? d <;> simp [submit, hsubmitter]

@[simp] theorem hand_submitter? : (hand built d r).2.submitter? = r.submitter? := by
  unfold hand
  cases built d with
  | error e => rfl
  | ok tx =>
    unfold submit
    cases r.submitter? d <;> rfl

theorem history_cons (tx : Transaction) :
    Router.history { r with handed := (d, tx) :: r.handed } c =
      if d = c then tx :: r.history c else r.history c := by
  unfold history
  by_cases h : d = c <;> simp [h]

/-- A send on another channel leaves a channel's history as it is. -/
theorem hand_history_ne (h : d ≠ c) : (hand built d r).2.history c = r.history c := by
  cases hbuilt : built d with
  | error e => rw [hand_eq_self (by simp [hbuilt])]
  | ok tx =>
    cases hsubmitter : r.submitter? d with
    | none => rw [hand_eq_self (by simp [hsubmitter])]
    | some submitter => rw [hand_of_submitter hbuilt hsubmitter, history_cons, if_neg h]

/-- A send on the channel itself puts what was built on top. -/
theorem hand_history_self : (hand built c r).2.history c = r.taken built c 1 ++ r.history c := by
  unfold taken
  cases hbuilt : built c with
  | error e =>
    rw [hand_eq_self (by simp [hbuilt])]
    rfl
  | ok tx =>
    cases hsubmitter : r.submitter? c with
    | none =>
      rw [hand_eq_self (by simp [hsubmitter])]
      rfl
    | some submitter =>
      rw [hand_of_submitter hbuilt hsubmitter, history_cons, if_pos rfl]
      rfl

/-! ## The others' sends -/

/-- How often a channel is sent on by one send. -/
def hits (d c : Channel) : Nat :=
  if d = c then 1 else 0

/-- Answers depend on the channel's own submitter and history. -/
theorem answer_congr (hsubmitter : r'.submitter? c = r.submitter? c)
    (hhistory : r'.history c = r.history c) (before : Nat) :
    r'.answer built c before = r.answer built c before := by
  unfold answer
  rw [hsubmitter, hhistory]

/-- After a send the answers of its channel are those of one send later, and
    the answers of the others are the same. -/
theorem answer_hand (before : Nat) :
    (hand built d r).2.answer built c before = r.answer built c (before + hits d c) := by
  unfold hits
  by_cases h : d = c
  · subst h
    rw [if_pos rfl]
    unfold answer
    rw [hand_submitter?, hand_history_self]
    cases hbuilt : built d with
    | error e => rfl
    | ok tx =>
      cases hsubmitter : r.submitter? d with
      | none => rfl
      | some submitter =>
        -- the send put one more transaction on top of the history
        have hone : r.taken built d 1 = List.replicate 1 tx := by simp [taken, hbuilt, hsubmitter]
        dsimp only
        rw [hone, ← List.replicate_append_replicate, List.append_assoc]
  · rw [if_neg h]
    exact answer_congr (by simp) (hand_history_ne h) before

theorem taken_hand (count : Nat) :
    (hand built d r).2.taken built c count ++ (hand built d r).2.history c =
      r.taken built c (count + hits d c) ++ r.history c := by
  have htaken : (hand built d r).2.taken built c count = r.taken built c count := by
    simp [taken]
  unfold hits
  rw [htaken]
  by_cases h : d = c
  · subst h
    rw [if_pos rfl, hand_history_self]
    unfold taken
    cases built d with
    | error e => rfl
    | ok tx =>
      cases r.submitter? d with
      | none => rfl
      | some submitter =>
        dsimp only
        rw [← List.replicate_append_replicate, List.append_assoc]
  · rw [if_neg h, hand_history_ne h]
    rfl

/-! ## All sends -/

/-- Every send is answered for its channel, in the order of the channels. -/
theorem sendEach_answers (built : Built) (channels : List Channel) (r : Router) :
    (sendEach (hand built) channels r).1 =
      channels.mapIdx fun i c => (c, r.answer built c ((channels.take i).count c)) := by
  induction channels generalizing r with
  | nil => rfl
  | cons d rest ih =>
    unfold sendEach
    rw [List.mapIdx_cons]
    simp only [ih, hand_fst, answer_hand]
    congr 1
    apply List.mapIdx_eq_mapIdx_iff.2
    intro i hi
    simp only [List.take_succ_cons, List.count_cons, hits, beq_iff_eq]

theorem sendEach_submitter? (built : Built) (channels : List Channel) (r : Router) :
    (sendEach (hand built) channels r).2.submitter? = r.submitter? := by
  induction channels generalizing r with
  | nil => rfl
  | cons d rest ih =>
    unfold sendEach
    exact (ih _).trans hand_submitter?

/-- A channel is handed what was built for it, once for each of its sends. -/
theorem sendEach_history (built : Built) (channels : List Channel) (r : Router) (c : Channel) :
    (sendEach (hand built) channels r).2.history c =
      r.taken built c (channels.count c) ++ r.history c := by
  induction channels generalizing r with
  | nil => simp [sendEach]
  | cons d rest ih =>
    unfold sendEach
    show (sendEach (hand built) rest (hand built d r).2).2.history c = _
    rw [ih, taken_hand]
    simp only [List.count_cons, hits, beq_iff_eq]

/-! ## What a channel sees -/

/-- What a channel sees of some sends: its answers in their order, and what it
    was handed by the end. -/
def seenBy (c : Channel) (out : List (Channel × Submission) × Router) :
    List Submission × List Transaction :=
  ((out.1.filter fun a => a.1 = c).map (·.2), out.2.history c)

/-- A channel's answers are those to its own sends, however many others there are. -/
theorem sendEach_seenBy (built : Built) (channels : List Channel) (r : Router) (c : Channel) :
    seenBy c (sendEach (hand built) channels r) =
      ((List.range (channels.count c)).map (r.answer built c),
        r.taken built c (channels.count c) ++ r.history c) := by
  refine Prod.ext ?_ (sendEach_history built channels r c)
  show ((sendEach (hand built) channels r).1.filter fun a => a.1 = c).map (·.2) = _
  induction channels generalizing r with
  | nil => rfl
  | cons d rest ih =>
    unfold sendEach
    have hrest := ih (hand built d r).2
    by_cases h : d = c
    · subst h
      have hanswers : ∀ n, (hand built d r).2.answer built d n = r.answer built d (n + 1) := by
        intro n
        rw [answer_hand, hits, if_pos rfl]
      simp only [List.filter_cons, decide_true, if_true, List.map_cons, List.count_cons_self,
        List.range_succ_eq_map, List.map_map, hand_fst, hrest]
      congr 1
      exact List.map_congr_left fun n _ => hanswers n
    · have hanswers : (hand built d r).2.answer built c = r.answer built c := by
        funext n
        rw [answer_hand, hits, if_neg h, Nat.add_zero]
      simp only [List.filter_cons, h, decide_false, Bool.false_eq_true, if_false,
        List.count_cons_of_ne h, hrest, hanswers]

/-- Sends that are answered in the order of their channels, each as its own
    channel alone would have it. -/
structure KeepsApart (r : Router) (built : Built) (channels : List Channel)
    (out : List (Channel × Submission) × Router) : Prop where
  answers : out.1 = channels.mapIdx fun i c => (c, r.answer built c ((channels.take i).count c))
  submitters : out.2.submitter? = r.submitter?
  history : ∀ c, out.2.history c = r.taken built c (channels.count c) ++ r.history c

theorem keepsApart_sendEach (built : Built) (channels : List Channel) (r : Router) :
    KeepsApart r built channels (sendEach (hand built) channels r) where
  answers := sendEach_answers built channels r
  submitters := sendEach_submitter? built channels r
  history := sendEach_history built channels r

/-- A channel sees the same in two runs that agree on its own sends, its
    submitter and its history. -/
theorem sendEach_seenBy_congr {channels channels' : List Channel}
    (hcount : channels'.count c = channels.count c)
    (hsubmitter : r'.submitter? c = r.submitter? c) (hhistory : r'.history c = r.history c) :
    seenBy c (sendEach (hand built) channels' r') = seenBy c (sendEach (hand built) channels r) := by
  have hanswer : r'.answer built c = r.answer built c :=
    funext (answer_congr hsubmitter hhistory)
  have htaken : r'.taken built c (channels.count c) = r.taken built c (channels.count c) := by
    unfold taken
    rw [hsubmitter]
  rw [sendEach_seenBy, sendEach_seenBy, hcount, hanswer, htaken, hhistory]

theorem race_eq (channels : List Channel) (tx : Transaction) (r : Router) :
    r.race channels tx = sendEach (hand fun _ => .ok tx) channels r := rfl

end Router

namespace Executor

/-- What an executor builds of an order for each channel. -/
def built (x : Executor) (order : SwapOrder) (blockhash : Key) : Router.Built := fun channel =>
  (x.transaction order blockhash channel).mapError SubmitError.build

theorem execute_eq (x : Executor) (intent : Intent) (blockhash : Key) (r : Router) :
    x.execute intent blockhash r =
      Router.sendEach (Router.hand (x.built intent.order blockhash)) intent.channels r := by
  have hsend : x.send intent.order blockhash = Router.hand (x.built intent.order blockhash) := by
    funext channel r
    unfold send Router.hand built
    cases x.transaction intent.order blockhash channel <;> rfl
  unfold execute
  rw [hsend]

end Executor

/-! ## What goes out -/

namespace Swap

variable {payer native mint : Key} {order : SwapOrder}

/-- A call that has the system program move lamports. -/
def MovesLamports (c : Call) : Prop :=
  c.program = Address.systemProgram ∧ word32At c.data 0 = Instruction.transferOp

theorem not_movesLamports_traded : ¬ MovesLamports (traded payer native mint order) := by
  rintro ⟨-, hop⟩
  -- the first byte of a swap's data is not that of a transfer, whatever its program is
  have hfirst := toNat_word32At_zero Instruction.swapBaseInTag
    (leOfWord64 order.amountIn ++ leOfWord64 order.minimumOut)
  have hdata : (traded payer native mint order).data =
      Instruction.swapBaseInTag :: (leOfWord64 order.amountIn ++ leOfWord64 order.minimumOut) := rfl
  rw [← hdata, hop] at hfirst
  exact absurd hfirst (by decide)

theorem not_movesLamports_opening : ∀ c ∈ opening payer mint order, ¬ MovesLamports c := by
  have hbudget : Address.computeBudgetProgram ≠ Address.systemProgram := by decide
  have haccount : Address.tokenAccountProgram ≠ Address.systemProgram := by decide
  unfold opening MovesLamports
  split <;> split <;> split <;>
    simp [computeLimit, computePrice, openTokenAccount, hbudget, haccount]

/-- What all channels share moves no lamports. -/
theorem not_movesLamports_calls {options : SwapOptions} {channel : Channel} {cs : List Call}
    (hchannel : channel ≠ .paidRelay)
    (h : calls payer native options order channel = .ok cs) : ∀ c ∈ cs, ¬ MovesLamports c := by
  obtain ⟨mint, nativeIsBase, hmint⟩ := mint_of_calls h
  have hclosing : closing payer options channel = [] := by
    cases channel with
    | paidRelay => exact absurd rfl hchannel
    | direct | blockEngine => rfl
  rw [calls_eq hmint, hclosing] at h
  obtain rfl := Except.ok.inj h
  intro c hc
  rcases List.mem_append.1 hc with hc | hc
  · exact not_movesLamports_opening c hc
  · rw [List.mem_singleton.1 hc]
    exact not_movesLamports_traded

/-- The paid relay's calls are the node's, with the tip and the memo after them. -/
theorem calls_paidRelay (options : SwapOptions) :
    calls payer native options order .paidRelay =
      (calls payer native options order .direct).map (· ++ closing payer options .paidRelay) := by
  cases hmint : order.keys.mint? with
  | none => simp [calls, hmint, Except.map]
  | some found =>
    obtain ⟨mint, nativeIsBase⟩ := found
    rw [calls_eq hmint, calls_eq hmint]
    simp [Except.map, closing]

theorem calls_blockEngine (options : SwapOptions) :
    calls payer native options order .blockEngine =
      calls payer native options order .direct := rfl

end Swap

namespace Executor

variable {x : Executor} {order : SwapOrder} {blockhash : Key} {channel : Channel}
  {tx : Transaction} {calls : List Call}

/-- The bytes of a transaction carry some calls: whoever has the executor's
    table reads back these calls and no others. -/
def Writes (x : Executor) (tx : Transaction) (calls : List Call) : Prop :=
  ∃ m, Message.read? tx.message = some m ∧
    ∀ signature r, (∀ t ∈ x.options.lookupTable, r.HasTable t.key t.addresses) →
      (runOn (Registry.readBack (m.toEnvelope signature)) r).1 = .ok (calls.map Call.read)

/-- What was built for a channel carries the channel's calls. -/
theorem writes_of_built (h : x.built order blockhash channel = .ok tx) :
    ∃ calls, Swap.calls x.payer x.native x.options order channel = .ok calls ∧
      x.Writes tx calls := by
  have htransaction : x.transaction order blockhash channel = .ok tx := by
    unfold built at h
    cases hbuilt : x.transaction order blockhash channel with
    | error e =>
      rw [hbuilt] at h
      cases h
    | ok tx' =>
      rw [hbuilt] at h
      exact congrArg Except.ok (Except.ok.inj h)
  obtain ⟨m, hm, rfl⟩ := Swap.transaction_eq_ok htransaction
  obtain ⟨calls, hcalls, hcompile⟩ := Swap.message_eq_ok hm
  refine ⟨calls, hcalls, m, Swap.read?_message hm, fun signature r hr => ?_⟩
  exact Registry.runOn_readBack (Message.carries_compile hcompile signature hr)

end Executor

/-! ## Isolation -/

/-- Channels are isolated.  An intent is answered once for each channel that it
    lists, in that order: with the build error where nothing could be built,
    which is handed to no one, with `notConfigured` where the router has no
    submitter, and else with the submitter's answer to what was built.  What a
    channel sees does not depend on the other channels, what stands on them or
    what they answer.  The same is true of a race with one transaction.

    What a channel is handed carries the calls for this channel.  These differ
    on the paid relay only, by the tip and the memo, and on no other channel
    do they move lamports. -/
theorem channels_isolated (x : Executor) (order : SwapOrder) (blockhash : Key)
    (channels : List Channel) (tx : Transaction) (r : Router) :
    r.KeepsApart (x.built order blockhash) channels
      (x.execute ⟨order, channels⟩ blockhash r) ∧
    r.KeepsApart (fun _ => .ok tx) channels (r.race channels tx) ∧
    (∀ (c : Channel) (channels' : List Channel) (r' : Router),
      channels'.count c = channels.count c → r'.submitter? c = r.submitter? c →
      r'.history c = r.history c →
      Router.seenBy c (x.execute ⟨order, channels'⟩ blockhash r') =
        Router.seenBy c (x.execute ⟨order, channels⟩ blockhash r) ∧
      Router.seenBy c (r'.race channels' tx) = Router.seenBy c (r.race channels tx)) ∧
    (∀ (c : Channel) (sent : Transaction),
      sent ∈ r.taken (x.built order blockhash) c (channels.count c) →
      ∃ calls, Swap.calls x.payer x.native x.options order c = .ok calls ∧ x.Writes sent calls ∧
        (c ≠ .paidRelay → ∀ call ∈ calls, ¬ Swap.MovesLamports call)) ∧
    (∀ (payer native : Key) (options : SwapOptions),
      Swap.calls payer native options order .paidRelay =
        (Swap.calls payer native options order .direct).map (fun cs =>
          cs ++ ((if 0 < options.tipLamports then [Swap.relayTip payer options.tipLamports]
            else []) ++ [Swap.relayMemo])) ∧
      Swap.calls payer native options order .blockEngine =
        Swap.calls payer native options order .direct ∧
      (∀ channel cs, channel ≠ .paidRelay →
        Swap.calls payer native options order channel = .ok cs →
        ∀ c ∈ cs, ¬ Swap.MovesLamports c)) := by
  have hrace : ∀ (channels : List Channel) (r : Router),
      r.race channels tx = Router.sendEach (Router.hand fun _ => .ok tx) channels r :=
    fun channels r => Router.race_eq channels tx r
  refine ⟨?_, ?_, ?_, ?_, fun payer native options =>
    ⟨Swap.calls_paidRelay options, Swap.calls_blockEngine options, ?_⟩⟩
  · rw [Executor.execute_eq]
    exact Router.keepsApart_sendEach _ channels r
  · rw [hrace]
    exact Router.keepsApart_sendEach _ channels r
  · intro c channels' r' hcount hsubmitter hhistory
    rw [Executor.execute_eq, Executor.execute_eq, hrace, hrace]
    exact ⟨Router.sendEach_seenBy_congr hcount hsubmitter hhistory,
      Router.sendEach_seenBy_congr hcount hsubmitter hhistory⟩
  · intro c sent hsent
    obtain ⟨calls, hcalls, hwrites⟩ := Executor.writes_of_built (Router.built_of_mem_taken hsent)
    exact ⟨calls, hcalls, hwrites, fun hc => Swap.not_movesLamports_calls hc hcalls⟩
  · intro channel cs hchannel hcalls
    exact Swap.not_movesLamports_calls hchannel hcalls

end PoolWatch
