import PoolWatch.Proofs.Watcher.SentFacts
import Mathlib.Data.List.Induction

/-! # What the order of instructions matters for

    Each of the three programs that are looked at has instructions of its
    own: openings, withdrawals and swaps, compute budgets, tips.  What is
    made of an envelope depends on the instructions of each program in their
    order, and on nothing else: not on how those of different programs are
    mixed, and not on instructions that say nothing (`Idle`).

    What is gathered is always the last of its kind, wherever the swap stands
    (`gathered_eq`), and what is handled where it stands belongs to a single
    program.  So an envelope whose instructions were rearranged is handled to
    the same state, and a row that it appends carries the last limit, the
    last price, the last tip and the last swap. -/

namespace PoolWatch.Watcher

open Tracking (statusOf)

/-! ## Rearranging -/

/-- The programs whose instructions are looked at. -/
def watchedPrograms : List Key :=
  [Address.venueProgram, Address.computeBudgetProgram, Address.systemProgram]

/-- Whether an instruction is one of a program. -/
def isOf (e : Envelope) (program : Key) (ix : CompiledInstruction) : Bool :=
  e.programOf? ix = some program

/-- An instruction that says nothing: its program is unknown or not looked
    at, it does not read, it is a swap that fixes what comes out, or it pays
    no tip. -/
inductive Idle (e : Envelope) (ix : CompiledInstruction) : Prop where
  | unknownProgram : e.programOf? ix = none → Idle e ix
  | otherProgram {program : Key} : e.programOf? ix = some program → program ∉ watchedPrograms →
      Idle e ix
  | swapBaseOut {maximumIn amountOut : UInt64} : isOf e Address.venueProgram ix →
      Instruction.decodeVenue ix.data = .ok (.swapBaseOut maximumIn amountOut) → Idle e ix
  | undecoded {err : DecodeError} : isOf e Address.venueProgram ix →
      Instruction.decodeVenue ix.data = .error err → Idle e ix
  | tipless : isOf e Address.systemProgram ix → tip? e ix = none → Idle e ix

/-- The instructions of an envelope may be permuted as long as those of each
    program that is looked at stay in their order, and instructions that say
    nothing may come and go. -/
inductive Rearranged (e : Envelope) : List CompiledInstruction → List CompiledInstruction → Prop
    where
  | permuted {before after : List CompiledInstruction} : before.Perm after →
      (∀ program ∈ watchedPrograms,
        before.filter (isOf e program) = after.filter (isOf e program)) →
      Rearranged e before after
  | inserted (front back : List CompiledInstruction) {ix : CompiledInstruction} : Idle e ix →
      Rearranged e (front ++ back) (front ++ ix :: back)
  | deleted (front back : List CompiledInstruction) {ix : CompiledInstruction} : Idle e ix →
      Rearranged e (front ++ ix :: back) (front ++ back)
  | trans {before between after : List CompiledInstruction} : Rearranged e before between →
      Rearranged e between after → Rearranged e before after

/-! ## What an instruction says -/

/-- A swap that fixes what goes in. -/
def isSwap : Instruction → Bool
  | .swapBaseIn .. => true
  | _ => false

/-- An opening or a withdrawal, which are handled where they stand. -/
def isHandled : Instruction → Bool
  | .openPool .. => true
  | .withdraw _ => true
  | _ => false

/-- An instruction of the watched program that decodes to one of a kind. -/
def picked? (e : Envelope) (kind : Instruction → Bool) (ix : CompiledInstruction) :
    Option CompiledInstruction :=
  if isOf e Address.venueProgram ix then
    match Instruction.decodeVenue ix.data with
    | .ok decoded => if kind decoded then some ix else none
    | .error _ => none
  else none

/-- The value that an instruction sets by a compute-budget operation. -/
def budgetOf? (e : Envelope) (op : UInt8) (ix : CompiledInstruction) : Option UInt32 :=
  if isOf e Address.computeBudgetProgram ix then
    match Instruction.decodeComputeBudget ix.data with
    | .computeBudget found value => if found = op then some value else none
    | _ => none
  else none

/-- The tip that an instruction pays. -/
def paidTip? (e : Envelope) (ix : CompiledInstruction) : Option Tip :=
  if isOf e Address.systemProgram ix then tip? e ix else none

/-- The last of what is read off some instructions. -/
def lastOf {α : Type} (read : CompiledInstruction → Option α)
    (instructions : List CompiledInstruction) : Option α :=
  (instructions.filterMap read).getLast?

/-- The facts of the last limit, the last price and the last tip. -/
def lastFacts (e : Envelope) (instructions : List CompiledInstruction) : Facts where
  computeLimit := (lastOf (budgetOf? e Instruction.computeLimitOp) instructions).getD 0
  computePrice := (lastOf (budgetOf? e Instruction.computePriceOp) instructions).getD 0
  tip := lastOf (paidTip? e) instructions

/-- The last swap. -/
def lastSwap (e : Envelope) (instructions : List CompiledInstruction) :
    Option CompiledInstruction :=
  lastOf (picked? e isSwap) instructions

section Gathering

variable {e : Envelope} {ix : CompiledInstruction} {instructions : List CompiledInstruction}

theorem lastOf_concat {α : Type} (read : CompiledInstruction → Option α)
    (instructions : List CompiledInstruction) (ix : CompiledInstruction) :
    lastOf read (instructions ++ [ix]) = (read ix).or (lastOf read instructions) := by
  unfold lastOf
  rw [List.filterMap_append, List.getLast?_append]
  cases h : read ix <;> simp [h]

/-- An instruction of one program is none of another. -/
theorem isOf_eq {program : Key} (h : e.programOf? ix = some program) (other : Key) :
    isOf e other ix = decide (program = other) := by
  unfold isOf
  rw [h]
  exact decide_eq_decide.2 Option.some_inj

/-- Each of the two budget operations replaces its own fact. -/
theorem afterBudget_eq (f : Facts) (h : isOf e Address.computeBudgetProgram ix = true) :
    f.afterBudget ix.data =
      { f with
        computeLimit := (budgetOf? e Instruction.computeLimitOp ix).getD f.computeLimit
        computePrice := (budgetOf? e Instruction.computePriceOp ix).getD f.computePrice } := by
  have hops : Instruction.computeLimitOp ≠ Instruction.computePriceOp := by decide
  unfold Facts.afterBudget budgetOf? Instruction.decodeComputeBudget
  rw [h]
  dsimp only
  by_cases hlimit : ix.data.head?.getD 0 = Instruction.computeLimitOp
  · simp [hlimit, hops]
  · by_cases hprice : ix.data.head?.getD 0 = Instruction.computePriceOp
    · simp [hprice, hops.symm]
    · simp [hlimit, hprice]

/-- What is gathered is replaced by what an instruction says. -/
theorem after_eq (scan : Scan) (ix : CompiledInstruction) :
    scan.after e ix =
      ⟨⟨(budgetOf? e Instruction.computeLimitOp ix).getD scan.facts.computeLimit,
          (budgetOf? e Instruction.computePriceOp ix).getD scan.facts.computePrice,
          (paidTip? e ix).or scan.facts.tip⟩,
        (picked? e isSwap ix).or scan.swap⟩ := by
  have hbudget : Address.computeBudgetProgram ≠ Address.venueProgram := by decide
  have hsystem : Address.systemProgram ≠ Address.venueProgram := by decide
  have hapart : Address.systemProgram ≠ Address.computeBudgetProgram := by decide
  unfold Scan.after
  cases hprogram : e.programOf? ix with
  | none =>
    have hnone : ∀ program, isOf e program ix = false := by simp [isOf, hprogram]
    simp [budgetOf?, paidTip?, picked?, hnone]
  | some program =>
    have hof := isOf_eq hprogram
    dsimp only
    by_cases hvenue : program = Address.venueProgram
    · subst hvenue
      rw [if_pos rfl]
      simp only [budgetOf?, paidTip?, picked?, hof, hbudget.symm, hsystem.symm]
      cases Instruction.decodeVenue ix.data with
      | error err => rfl
      | ok decoded => cases decoded <;> rfl
    rw [if_neg hvenue]
    by_cases hlimits : program = Address.computeBudgetProgram
    · subst hlimits
      have hown : isOf e Address.computeBudgetProgram ix = true := decide_eq_true hprogram
      rw [if_pos rfl, afterBudget_eq scan.facts hown]
      simp [paidTip?, picked?, hof, hbudget, hapart.symm]
    rw [if_neg hlimits]
    by_cases htips : program = Address.systemProgram
    · subst htips
      rw [if_pos rfl]
      unfold Facts.afterTransfer
      simp only [budgetOf?, paidTip?, picked?, hof, hsystem, hapart]
      cases tip? e ix <;> rfl
    · rw [if_neg htips]
      simp [budgetOf?, paidTip?, picked?, hof, hvenue, hlimits, htips]

/-- What is gathered is the last of each kind. -/
theorem foldl_after (e : Envelope) (instructions : List CompiledInstruction) :
    instructions.foldl (Scan.after e) ⟨.none, none⟩ =
      ⟨lastFacts e instructions, lastSwap e instructions⟩ := by
  -- from the front to the back, for the last instruction replaces what was gathered
  induction instructions using List.reverseRecOn with
  | nil => rfl
  | append_singleton rest ix ih =>
    rw [List.foldl_append, ih, List.foldl_cons, List.foldl_nil, after_eq]
    simp only [lastFacts, lastSwap, lastOf_concat, Option.getD_or]

end Gathering

/-! ## What rearranging leaves alone -/

section Idle

variable {e : Envelope} {ix : CompiledInstruction}

theorem isOf_inj {program other : Key} (h : isOf e program ix = true)
    (h' : isOf e other ix = true) : program = other :=
  Option.some.inj ((of_decide_eq_true h).symm.trans (of_decide_eq_true h'))

/-- An instruction of a program that is looked at says nothing in one of three ways. -/
theorem Idle.cases_of_isOf (h : Idle e ix) {program : Key} (hwatched : program ∈ watchedPrograms)
    (hof : isOf e program ix = true) :
    (program = Address.venueProgram ∧
      ((∃ maximumIn amountOut,
          Instruction.decodeVenue ix.data = .ok (.swapBaseOut maximumIn amountOut)) ∨
        ∃ err, Instruction.decodeVenue ix.data = .error err)) ∨
      (program = Address.systemProgram ∧ tip? e ix = none) := by
  have hprogram : e.programOf? ix = some program := of_decide_eq_true hof
  cases h with
  | unknownProgram hnone =>
    rw [hnone] at hprogram
    cases hprogram
  | otherProgram hother hnot =>
    rw [hother] at hprogram
    exact absurd (Option.some.inj hprogram ▸ hwatched) hnot
  | swapBaseOut hvenue hdecode => exact .inl ⟨isOf_inj hof hvenue, .inl ⟨_, _, hdecode⟩⟩
  | undecoded hvenue hdecode => exact .inl ⟨isOf_inj hof hvenue, .inr ⟨_, hdecode⟩⟩
  | tipless hsystem htip => exact .inr ⟨isOf_inj hof hsystem, htip⟩

/-- What is read off the instructions of one program, and off none that says nothing. -/
structure ReadsOff {α : Type} (e : Envelope) (program : Key)
    (read : CompiledInstruction → Option α) : Prop where
  watched : program ∈ watchedPrograms
  other : ∀ ix, isOf e program ix = false → read ix = none
  idle : ∀ ix, isOf e program ix = true → Idle e ix → read ix = none

theorem ReadsOff.eq_none {α : Type} {program : Key} {read : CompiledInstruction → Option α}
    (h : ReadsOff e program read) (hidle : Idle e ix) : read ix = none := by
  cases hof : isOf e program ix with
  | false => exact h.other ix hof
  | true => exact h.idle ix hof hidle

/-- It is read off the instructions of the program alone. -/
theorem ReadsOff.filterMap_filter {α : Type} {program : Key}
    {read : CompiledInstruction → Option α} (h : ReadsOff e program read)
    (instructions : List CompiledInstruction) :
    (instructions.filter (isOf e program)).filterMap read = instructions.filterMap read := by
  rw [List.filterMap_filter]
  refine List.filterMap_congr fun ix _ => ?_
  split
  · rfl
  · next hof => exact (h.other ix (Bool.eq_false_iff.2 hof)).symm

/-- It is the same after rearranging. -/
theorem Rearranged.filterMap_eq {α : Type} {program : Key}
    {read : CompiledInstruction → Option α} (hread : ReadsOff e program read)
    {before after : List CompiledInstruction} (h : Rearranged e before after) :
    before.filterMap read = after.filterMap read := by
  -- one way of rearranging after the other
  induction h with
  | permuted _ hsame =>
    rw [← hread.filterMap_filter, hsame program hread.watched, hread.filterMap_filter]
  | inserted front back hidle =>
    rw [List.filterMap_append, List.filterMap_append,
      List.filterMap_cons_none (hread.eq_none hidle)]
  | deleted front back hidle =>
    rw [List.filterMap_append, List.filterMap_append,
      List.filterMap_cons_none (hread.eq_none hidle)]
  | trans _ _ ihfirst ihsecond => exact ihfirst.trans ihsecond

/-- Two blocks without a program in common may change places. -/
theorem Rearranged.exchanged {front back : List CompiledInstruction}
    (h : ∀ a ∈ front, ∀ b ∈ back, ∀ program, isOf e program a = true → isOf e program b = false) :
    Rearranged e (front ++ back) (back ++ front) := by
  refine .permuted List.perm_append_comm fun program _ => ?_
  rw [List.filter_append, List.filter_append]
  -- of a program that is in the front block there is nothing in the back one
  by_cases hnone : ∀ a ∈ front, ¬ isOf e program a = true
  · rw [List.filter_eq_nil_iff.2 hnone, List.append_nil, List.nil_append]
  · obtain ⟨a, ha, hof⟩ : ∃ a ∈ front, isOf e program a = true := by
      simpa using hnone
    have hback : ∀ b ∈ back, ¬ isOf e program b = true :=
      fun b hb => Bool.eq_false_iff.1 (h a ha b hb program hof)
    rw [List.filter_eq_nil_iff.2 hback, List.append_nil, List.nil_append]

theorem readsOff_budgetOf? (e : Envelope) (op : UInt8) :
    ReadsOff e Address.computeBudgetProgram (budgetOf? e op) where
  watched := by simp [watchedPrograms]
  other ix hof := by simp [budgetOf?, hof]
  idle ix hof hidle := by
    obtain ⟨hprogram, -⟩ | ⟨hprogram, -⟩ := hidle.cases_of_isOf (by simp [watchedPrograms]) hof
    · exact absurd hprogram (by decide)
    · exact absurd hprogram (by decide)

theorem readsOff_paidTip? (e : Envelope) : ReadsOff e Address.systemProgram (paidTip? e) where
  watched := by simp [watchedPrograms]
  other ix hof := by simp [paidTip?, hof]
  idle ix hof hidle := by
    obtain ⟨hprogram, -⟩ | ⟨-, htip⟩ := hidle.cases_of_isOf (by simp [watchedPrograms]) hof
    · exact absurd hprogram (by decide)
    · simp [paidTip?, htip]

theorem readsOff_picked? (e : Envelope) {kind : Instruction → Bool}
    (hkind : ∀ maximumIn amountOut, kind (.swapBaseOut maximumIn amountOut) = false) :
    ReadsOff e Address.venueProgram (picked? e kind) where
  watched := by simp [watchedPrograms]
  other ix hof := by simp [picked?, hof]
  idle ix hof hidle := by
    obtain ⟨-, ⟨_, _, hdecode⟩ | ⟨_, hdecode⟩⟩ | ⟨hprogram, -⟩ :=
      hidle.cases_of_isOf (by simp [watchedPrograms]) hof
    · simp [picked?, hdecode, hkind]
    · simp [picked?, hdecode]
    · exact absurd hprogram (by decide)

end Idle

section Rearranged

variable {e : Envelope} {before after : List CompiledInstruction}

/-- The same is gathered after rearranging. -/
theorem Rearranged.gathered_eq (h : Rearranged e before after) :
    lastFacts e after = lastFacts e before ∧ lastSwap e after = lastSwap e before := by
  have hbudget : ∀ op, lastOf (budgetOf? e op) after = lastOf (budgetOf? e op) before :=
    fun op => congrArg List.getLast? (h.filterMap_eq (readsOff_budgetOf? e op)).symm
  have htip : lastOf (paidTip? e) after = lastOf (paidTip? e) before :=
    congrArg List.getLast? (h.filterMap_eq (readsOff_paidTip? e)).symm
  have hswap : lastOf (picked? e isSwap) after = lastOf (picked? e isSwap) before :=
    congrArg List.getLast? (h.filterMap_eq (readsOff_picked? e fun _ _ => rfl)).symm
  refine ⟨?_, hswap⟩
  unfold lastFacts
  rw [hbudget, hbudget, htip]

/-- An instruction that is no opening and no withdrawal is not handled where it stands. -/
theorem handleInstruction_of_not_picked {ix : CompiledInstruction}
    (h : picked? e isHandled ix = none) (s : Setup) (w : State) :
    ((handleInstruction s e ix).run w).2 = w := by
  unfold picked? at h
  unfold handleInstruction
  by_cases hof : isOf e Address.venueProgram ix = true
  · rw [if_pos hof] at h
    rw [if_pos (of_decide_eq_true hof)]
    cases hdecode : Instruction.decodeVenue ix.data with
    | error err => rfl
    | ok decoded =>
      rw [hdecode] at h
      cases decoded with
      | openPool => cases h
      | withdraw => cases h
      | _ => rfl
  · rw [if_neg (of_decide_eq_false (Bool.eq_false_iff.2 hof))]
    rfl

/-- What is picked is the instruction itself. -/
theorem eq_of_picked? {kind : Instruction → Bool} {ix found : CompiledInstruction}
    (h : picked? e kind ix = some found) : found = ix := by
  unfold picked? at h
  by_cases hof : isOf e Address.venueProgram ix = true
  · rw [if_pos hof] at h
    cases hdecode : Instruction.decodeVenue ix.data with
    | error err =>
      rw [hdecode] at h
      cases h
    | ok decoded =>
      rw [hdecode] at h
      obtain ⟨-, hfound⟩ := Option.ite_none_right_eq_some.1 h
      exact (Option.some.inj hfound).symm
  · rw [if_neg hof] at h
    cases h

/-- Openings and withdrawals are all that is handled. -/
theorem handleEach_picked (s : Setup) (w : State) (instructions : List CompiledInstruction) :
    handleEach s e w (instructions.filterMap (picked? e isHandled)) =
      handleEach s e w instructions := by
  induction instructions generalizing w with
  | nil => rfl
  | cons ix rest ih =>
    rw [handleEach_cons]
    cases hpicked : picked? e isHandled ix with
    | none =>
      rw [List.filterMap_cons_none hpicked, handleInstruction_of_not_picked hpicked]
      exact ih w
    | some found =>
      obtain rfl := eq_of_picked? hpicked
      rw [List.filterMap_cons_some hpicked, handleEach_cons]
      exact ih _

/-- The same is handled after rearranging. -/
theorem Rearranged.handleEach_eq (h : Rearranged e before after) (s : Setup) (w : State) :
    handleEach s e w after = handleEach s e w before := by
  rw [← handleEach_picked s w after, ← handleEach_picked s w before,
    h.filterMap_eq (readsOff_picked? e fun _ _ => rfl)]

end Rearranged

/-! ## Envelopes -/

/-- The envelope with other instructions. -/
def withInstructions (e : Envelope) (instructions : List CompiledInstruction) : Envelope :=
  { e with instructions }

section Envelopes

variable {s : Setup} {e : Envelope} {w : State}

theorem gathered_eq (e : Envelope) :
    gathered e = ⟨lastFacts e e.instructions, lastSwap e e.instructions⟩ :=
  foldl_after e e.instructions

/-- Beside what is gathered and what is handled where it stands, the
    instructions are not looked at. -/
theorem process_congr {instructions : List CompiledInstruction}
    (hhandled : ∀ w, handleEach s e w instructions = handleEach s e w e.instructions)
    (hfacts : lastFacts e instructions = lastFacts e e.instructions)
    (hswap : lastSwap e instructions = lastSwap e e.instructions) :
    (process s (withInstructions e instructions)).run w = (process s e).run w := by
  cases hseen : w.seen.remembers w.time e.signature with
  | true =>
    have hseen' : w.seen.remembers w.time (withInstructions e instructions).signature = true :=
      hseen
    rw [run_process_duplicate s e hseen, run_process_duplicate s _ hseen']
  | false =>
    have hseen' : w.seen.remembers w.time (withInstructions e instructions).signature = false :=
      hseen
    have hgathered : gathered (withInstructions e instructions) = gathered e := by
      rw [gathered_eq e, ← hfacts, ← hswap]
      exact gathered_eq (withInstructions e instructions)
    have hscanned : scanned s (withInstructions e instructions) w = scanned s e w :=
      hhandled (noteArrival s e w)
    rw [run_process_new s e hseen, run_process_new s _ hseen', hgathered, hscanned]
    rfl

/-- The only trade that the handling of a swap may record is of the site of
    that swap, whose venue is tracked or whose signer is the bot. -/
theorem trades_handleSwap (s : Setup) (e : Envelope) (ix : CompiledInstruction) (facts : Facts)
    (w : State) :
    (runOn (handleSwap s e ix facts) w).2.trades = w.trades ∨
      ∃ site w₁ status, runOn (swapSite e ix) w = (.ok site, w₁) ∧
        statusOf w₁.registry.store site.venue = .ok status ∧
        (status.isTracked = true ∨ site.signer = s.bot) ∧
        (runOn (handleSwap s e ix facts) w).2.trades =
          w.trades.withTrade (tradeOf e facts site (s.wallSeconds w₁)) := by
  have hlooks : ∀ {answer w₁}, runOn (swapSite e ix) w = (answer, w₁) → w₁.trades = w.trades :=
    fun hsite => congrArg Prod.fst (keepsBooks_of_looks ((allows_swapSite e ix).rel_of_runOn hsite))
  rcases hsite : runOn (swapSite e ix) w with ⟨err | site, w₁⟩
  · rw [runOn_handleSwap_error s facts hsite]
    exact .inl (hlooks hsite)
  rw [← hlooks hsite]
  cases hstatus : statusOf w₁.registry.store site.venue with
  | error err =>
    rw [runOn_handleSwap_unread s facts hsite hstatus]
    exact .inl rfl
  | ok status =>
    by_cases hown : site.signer = s.bot
    · rw [runOn_handleSwap_own s facts hsite hstatus hown]
      exact .inr ⟨site, w₁, status, rfl, hstatus, .inr hown, rfl⟩
    · cases htracked : status.isTracked with
      | false =>
        rw [runOn_handleSwap_passed s facts hsite hstatus htracked hown]
        exact .inl rfl
      | true =>
        rw [runOn_handleSwap_other s facts hsite hstatus htracked hown]
        obtain ⟨htrades, -⟩ := fire_records s _ _
        exact .inr ⟨site, w₁, status, rfl, hstatus, .inl htracked, htrades⟩

/-- So it is at the end of an envelope, whatever was gathered of it. -/
theorem trades_conclude (s : Setup) (e : Envelope) (scan : Scan) (w : State) :
    ((conclude s e scan).run w).2.trades = w.trades ∨
      ∃ ix site w₁ status, scan.swap = some ix ∧ runOn (swapSite e ix) w = (.ok site, w₁) ∧
        statusOf w₁.registry.store site.venue = .ok status ∧
        (status.isTracked = true ∨ site.signer = s.bot) ∧
        ((conclude s e scan).run w).2.trades =
          w.trades.withTrade (tradeOf e scan.facts site (s.wallSeconds w₁)) := by
  cases hswap : scan.swap with
  | none =>
    rw [run_conclude_none hswap]
    exact .inl rfl
  | some ix =>
    rw [run_conclude_some hswap]
    have hattempt :
        ((attempt e.signature "swap" (handleSwap s e ix scan.facts)).run w).2.trades =
          (runOn (handleSwap s e ix scan.facts) w).2.trades := by
      -- a warning is no trade
      rcases hop : runOn (handleSwap s e ix scan.facts) w with ⟨err | a, w'⟩
      · rw [run_attempt_error _ _ hop]
        rfl
      · rw [run_attempt_ok _ _ hop]
    dsimp only
    rw [hattempt]
    obtain hnone | ⟨site, w₁, status, hsite, hstatus, hjudged, htrade⟩ :=
      trades_handleSwap s e ix scan.facts w
    · exact .inl hnone
    · exact .inr ⟨ix, site, w₁, status, rfl, hsite, hstatus, hjudged, htrade⟩

/-- What is appended while an envelope is handled: nothing, or a row of its
    last swap with its last facts. -/
theorem trades_process (hnew : w.seen.remembers w.time e.signature = false) :
    ((process s e).run w).2.trades = w.trades ∨
      ∃ ix site w₁, lastSwap e e.instructions = some ix ∧
        runOn (swapSite e ix) (scanned s e w) = (.ok site, w₁) ∧
        ((process s e).run w).2.trades =
          w.trades.withTrade (tradeOf e (lastFacts e e.instructions) site (s.wallSeconds w₁)) := by
  have hscanned : (scanned s e w).trades = w.trades :=
    congrArg Prod.fst ((covers_keepsBooks s).handleEach e e.instructions (noteArrival s e w))
  rw [run_process_new s e hnew, gathered_eq, ← hscanned]
  refine (trades_conclude s e _ (scanned s e w)).imp_right ?_
  rintro ⟨ix, site, w₁, -, hix, hsite, -, -, htrades⟩
  exact ⟨ix, site, w₁, hix, hsite, htrades⟩

/-- An envelope whose instructions were rearranged is handled to the same
    answer and the same state.  A row that is appended, wherever the swap
    stands, is of the site of the last swap and carries the last limit, the
    last price and the last tip. -/
theorem process_rearranged (s : Setup) (e : Envelope) (w : State)
    (instructions : List CompiledInstruction) (h : Rearranged e e.instructions instructions) :
    (process s (withInstructions e instructions)).run w = (process s e).run w ∧
      (((process s e).run w).2.trades = w.trades ∨
        ∃ row t ix site w₁, ((process s e).run w).2.trades.rows = row :: w.trades.rows ∧
          row.trade = .ok t ∧ t = tradeOf e (lastFacts e e.instructions) site (s.wallSeconds w₁) ∧
          lastSwap e e.instructions = some ix ∧
          runOn (swapSite e ix) (scanned s e w) = (.ok site, w₁)) := by
  obtain ⟨hfacts, hswap⟩ := h.gathered_eq
  refine ⟨process_congr (h.handleEach_eq s) hfacts hswap, ?_⟩
  cases hseen : w.seen.remembers w.time e.signature with
  | true =>
    rw [run_process_duplicate s e hseen]
    exact .inl rfl
  | false =>
    refine (trades_process hseen).imp_right ?_
    rintro ⟨ix, site, w₁, hix, hsite, htrades⟩
    exact ⟨_, _, ix, site, w₁, congrArg TradeHistory.rows htrades, (tradeOf_fits ..).trade_row _,
      rfl, hix, hsite⟩

end Envelopes

/-! ## A sale with its budget behind the tip -/

namespace SaleSample

/-- The paid sale: a limit, a price, the swap, the tip and a memo. -/
structure IsPaidSale (m : Message) (limit price swap tip memo : CompiledInstruction) : Prop where
  instructions : (executed m).instructions = [limit, price, swap, tip, memo]
  limit : (executed m).programOf? limit = some Address.computeBudgetProgram
  price : (executed m).programOf? price = some Address.computeBudgetProgram
  swap : (executed m).programOf? swap = some Address.venueProgram
  tip : (executed m).programOf? tip = some Address.systemProgram
  memo : (executed m).programOf? memo = some Swap.relayMemo.program

section Paid

variable {m : Message} {limit price swap tip memo : CompiledInstruction}

theorem exists_paidSale (hm : Swap.message setup.bot native executor.options
    (order Address.orderBookProgram) .paidRelay .zero = .ok m) :
    ∃ limit price swap tip memo, IsPaidSale m limit price swap tip memo := by
  have hfive : List.Forall₂ (StandsFor (executed m)) (executed m).instructions
      [Swap.computeLimit 200000, Swap.computePrice 7,
        Swap.traded setup.bot native (.ofNat 3) (order Address.orderBookProgram),
        Swap.relayTip setup.bot 1000, Swap.relayMemo] :=
    standsFor_sent hm ⟨rfl, rfl, rfl⟩ rfl (mint_order Address.orderBookProgram)
  obtain ⟨limit, _, hlimit, hfour, hinstructions⟩ := List.forall₂_cons_right_iff.1 hfive
  obtain ⟨price, _, hprice, hthree, rfl⟩ := List.forall₂_cons_right_iff.1 hfour
  obtain ⟨swap, _, hswap, htwo, rfl⟩ := List.forall₂_cons_right_iff.1 hthree
  obtain ⟨tip, _, htip, hone, rfl⟩ := List.forall₂_cons_right_iff.1 htwo
  obtain ⟨memo, _, hmemo, hnone, rfl⟩ := List.forall₂_cons_right_iff.1 hone
  obtain rfl := List.forall₂_nil_right_iff.1 hnone
  exact ⟨limit, price, swap, tip, memo, hinstructions, hlimit.program, hprice.program,
    hswap.program, htip.program, hmemo.program⟩

/-- The budget may come behind the swap and the tip, and the memo may go. -/
theorem IsPaidSale.rearranged (h : IsPaidSale m limit price swap tip memo) :
    Rearranged (executed m) (executed m).instructions [swap, tip, limit, price] := by
  have hsilent : Idle (executed m) memo := .otherProgram h.memo (by decide)
  have hbudget : ∀ ix ∈ [limit, price],
      (executed m).programOf? ix = some Address.computeBudgetProgram := by
    rw [List.forall_mem_cons, List.forall_mem_singleton]
    exact ⟨h.limit, h.price⟩
  have hother : ∀ ix ∈ [swap, tip],
      isOf (executed m) Address.computeBudgetProgram ix = false := by
    rw [List.forall_mem_cons, List.forall_mem_singleton, isOf_eq h.swap, isOf_eq h.tip]
    decide
  have hapart : ∀ a ∈ [limit, price], ∀ b ∈ [swap, tip], ∀ program,
      isOf (executed m) program a = true → isOf (executed m) program b = false := by
    intro a ha b hb program hof
    rw [isOf_inj hof (decide_eq_true (hbudget a ha))]
    exact hother b hb
  rw [h.instructions]
  exact .trans (.deleted [limit, price, swap, tip] [] hsilent) (.exchanged hapart)

end Paid

/-- The paid sale with the swap in front, the tip after it, the compute
    budget last and no memo is recorded as it was sent. -/
theorem sale_rearranged : ∃ m limit price swap tip memo row t,
    Swap.message setup.bot native executor.options (order Address.orderBookProgram) .paidRelay
        .zero = .ok m ∧
      (executed m).instructions = [limit, price, swap, tip, memo] ∧
      ((process setup (withInstructions (executed m) [swap, tip, limit, price])).run
        watching).2.trades.rows = [row] ∧
      row.trade = .ok t ∧ t.computeLimit = 200000 ∧ t.computePrice = 7 ∧
      t.tip = some "bloxroute" ∧ t.tipAmount = 1000 := by
  have hmint := mint_order Address.orderBookProgram
  obtain ⟨m, hm⟩ : ∃ m, Swap.message setup.bot native executor.options
      (order Address.orderBookProgram) .paidRelay .zero = .ok m :=
    Swap.exists_message (Swap.calls_eq hmint) nofun
  have hstands := standsFor_sent (e := executed m) hm ⟨rfl, rfl, rfl⟩ rfl hmint
  have hfacts : lastFacts (executed m) (executed m).instructions =
      sentFacts executor.options (order Address.orderBookProgram) .paidRelay := by
    have hgathered : (gathered (executed m)).facts = _ :=
      (facts_gather hstands _).trans (facts_calls ..)
    rwa [gathered_eq] at hgathered
  have hown : TakenAsOwn setup (executed m) (order Address.orderBookProgram).keys (.ofNat 3)
      watching ((process setup (executed m)).run watching).2 :=
    (process_calls (w := watching) (hstands.imp fun _ _ h => h.carries _) rfl
      (fun h => absurd rfl h) knowsPool_watching rfl (Tracking.statusOf_empty venue) hmint).1
      ((signer_readParties rfl ..).trans (if_pos rfl))
  obtain ⟨limit, price, swap, tip, memo, hpaid⟩ := exists_paidSale hm
  obtain ⟨hsame, htrades⟩ :=
    process_rearranged setup (executed m) watching _ hpaid.rearranged
  obtain htrades | ⟨row, t, ix, site, w₁, hrows, hread, rfl, -⟩ := htrades
  · exact absurd htrades hown.ne
  · rw [hfacts] at hread
    refine ⟨m, limit, price, swap, tip, memo, row, _, hm, hpaid.instructions, ?_,
      hread, rfl, rfl, rfl, rfl⟩
    rw [hsame]
    exact hrows

end SaleSample

end PoolWatch.Watcher
