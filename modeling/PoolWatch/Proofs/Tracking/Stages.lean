import Mathlib.Algebra.Order.Floor.Div
import PoolWatch.Proofs.Tracking.Draws

/-! # Selling in stages

    A ledger is opened with the size of a stage: its total cut into the parts
    that the splitter asks for, rounded down.  Stages are drawn one after the
    other, and the ledger is at its end when together they reach the total,
    not before (`isExhausted_drawStages`).

    Rounding down makes the stages small and so their number large, but never
    more than twice the number of parts (`stages_le`).  A total of fewer
    units than parts is cut into stages of nothing: it can be opened, but its
    stages never end it (`undersized_never_ends`). -/

namespace PoolWatch.Tracking

/-! ## Stages of a ledger -/

namespace Ledger

/-- The ledger after some draws of a stage each. -/
def drawStages (l : Ledger) : Nat → Ledger
  | 0 => l
  | n + 1 => (l.drawStages n).consume l.stage

/-- How many stages reach the total. -/
def stages (l : Ledger) : Nat :=
  l.total ⌈/⌉ l.stage

variable {splitter : UInt64} {total : Nat}

/-- Stages that were drawn are one draw of all of them. -/
theorem drawStages_eq (l : Ledger) (n : Nat) : l.drawStages n = l.consume (n * l.stage) := by
  induction n with
  | zero => rw [Nat.zero_mul]; rfl
  | succ n ih => rw [drawStages, ih, consume_consume, Nat.succ_mul]

theorem isExhausted_drawStages (n : Nat) :
    ((start total splitter).drawStages n).isExhausted = true ↔
      total ≤ n * (start total splitter).stage := by
  rw [drawStages_eq, isExhausted_consume_start]

theorem stage_le (total : Nat) (splitter : UInt64) : (start total splitter).stage ≤ total :=
  Nat.div_le_self ..

/-- There is something in a stage when every part gets a unit. -/
theorem stage_pos_iff : 0 < (start total splitter).stage ↔ max splitter.toNat 1 ≤ total := by
  have hparts : 0 < max splitter.toNat 1 := by omega
  exact Nat.div_pos_iff.trans (and_iff_right hparts)

theorem stage_eq_zero (h : total < max splitter.toNat 1) : (start total splitter).stage = 0 :=
  Nat.div_eq_of_lt h

theorem stages_le_iff (hstage : 0 < (start total splitter).stage) (n : Nat) :
    (start total splitter).stages ≤ n ↔ total ≤ n * (start total splitter).stage := by
  rw [Nat.mul_comm]
  exact ceilDiv_le_iff_le_mul hstage

/-- One stage less than there are parts does not reach the total. -/
theorem le_stages (hstage : 0 < (start total splitter).stage) :
    max splitter.toNat 1 ≤ (start total splitter).stages := by
  have hfits : max splitter.toNat 1 ≤ total := stage_pos_iff.1 hstage
  have hparts : (start total splitter).stage * max splitter.toNat 1 ≤ total :=
    Nat.div_mul_le_self ..
  have hreached := (stages_le_iff hstage _).1 (Nat.le_refl _)
  -- parts of a stage each are at most the total, which the stages reach
  refine Nat.le_of_mul_le_mul_right ?_ hstage
  calc max splitter.toNat 1 * (start total splitter).stage
      ≤ total := by rwa [Nat.mul_comm]
    _ ≤ (start total splitter).stages * (start total splitter).stage := hreached

/-- What rounding leaves over is less than one more stage for every part. -/
theorem stages_le (hstage : 0 < (start total splitter).stage) :
    (start total splitter).stages ≤ 2 * max splitter.toNat 1 := by
  have hparts : 0 < max splitter.toNat 1 := by omega
  have hover : total < ((start total splitter).stage + 1) * max splitter.toNat 1 := by
    rw [Nat.mul_comm]
    exact Nat.lt_mul_div_succ total hparts
  rw [stages_le_iff hstage]
  calc total
      ≤ ((start total splitter).stage + 1) * max splitter.toNat 1 := Nat.le_of_lt hover
    _ ≤ (2 * (start total splitter).stage) * max splitter.toNat 1 :=
        Nat.mul_le_mul_right _ (by omega)
    _ = 2 * max splitter.toNat 1 * (start total splitter).stage := by
        rw [Nat.mul_assoc, Nat.mul_assoc, Nat.mul_comm (start total splitter).stage]

theorem undersized_never_ends (hpos : 0 < total) (h : total < max splitter.toNat 1) (n : Nat) :
    (start total splitter).drawStages n = start total splitter ∧
      ((start total splitter).drawStages n).isExhausted = false := by
  have hsame : (start total splitter).drawStages n = start total splitter := by
    rw [drawStages_eq, stage_eq_zero h, Nat.mul_zero]
    rfl
  have hleft : ¬ ((start total splitter).drawStages n).isExhausted = true := by
    rw [isExhausted_drawStages, stage_eq_zero h, Nat.mul_zero]
    omega
  exact ⟨hsame, Bool.eq_false_iff.2 hleft⟩

end Ledger

/-! ## Selling the stages of a venue -/

/-- An own swap that went through and sold one stage of a ledger. -/
def OwnSwap.SellsStage (l : Ledger) (x : OwnSwap) : Prop :=
  x.succeeded = true ∧ x.amount.toNat = l.stage

section Runs

variable {policy : Policy} {now : Int64} {venue : Key} {s : Store} {total : Nat}
  {swaps : List OwnSwap}

theorem drawnInAll_stages {l : Ledger} (h : ∀ x ∈ swaps, x.SellsStage l) :
    drawnInAll swaps = swaps.length * l.stage := by
  have hdrawn : ∀ drawn ∈ swaps.map OwnSwap.drawn, drawn = l.stage := by
    intro drawn hmem
    obtain ⟨x, hx, rfl⟩ := List.mem_map.1 hmem
    obtain ⟨hsucceeded, hamount⟩ := h x hx
    rw [OwnSwap.drawn, if_pos hsucceeded, hamount]
  unfold drawnInAll
  rw [List.sum_eq_card_nsmul _ _ hdrawn, List.length_map, smul_eq_mul]

/-- Until its stages reach the total, the ledger of the venue is the opened
    one after as many draws. -/
theorem ledgerOf_afterStages (hle : total ≤ Ledger.maxAmount)
    (hsells : ∀ x ∈ swaps, x.SellsStage (.start total policy.splitter))
    (hleft : swaps.length * (Ledger.start total policy.splitter).stage < total) :
    ledgerOf (afterSwaps policy venue (opened policy now venue total s) swaps) venue =
      .ok (some ((Ledger.start total policy.splitter).drawStages swaps.length)) := by
  have hsum := drawnInAll_stages hsells
  rw [afterSwaps_opened hle (hsum ▸ hleft), ledgerOf_withLedger_start hle, hsum,
    Ledger.drawStages_eq]

/-- The stage that reaches the total closes the ledger and lets the venue go. -/
theorem told_of_lastStage (hle : total ≤ Ledger.maxAmount)
    (hstage : 0 < (Ledger.start total policy.splitter).stage)
    (hsells : ∀ x ∈ swaps, x.SellsStage (.start total policy.splitter))
    (hlast : swaps.length = (Ledger.start total policy.splitter).stages) :
    ledgerOf (afterSwaps policy venue (opened policy now venue total s) swaps) venue = .ok none ∧
      statusOf (afterSwaps policy venue (opened policy now venue total s) swaps) venue =
        .ok .notTracked := by
  have hmost := Ledger.le_stages hstage
  cases swaps using List.reverseRecOn with
  | nil =>
    -- there is at least one stage to sell
    rw [List.length_nil] at hlast
    omega
  | append_singleton earlier last =>
    have hearlier := drawnInAll_stages fun x hx => hsells x (List.mem_append_left _ hx)
    have hall := drawnInAll_stages hsells
    rw [List.length_append, List.length_singleton] at hlast hall
    have hbefore : ¬ (Ledger.start total policy.splitter).stages ≤ earlier.length := by omega
    have hreached : (Ledger.start total policy.splitter).stages ≤ earlier.length + 1 := by omega
    rw [Ledger.stages_le_iff hstage] at hbefore hreached
    refine told_of_reached hle ?_ ?_
    · rw [hearlier]
      omega
    · rw [hall]
      exact hreached

end Runs

/-! ## Every stage is something, or none is -/

/-- A ledger over a positive total.  A stage is never more than the total, and
    the draws of a stage end the ledger exactly when together they reach it.
    When the total has a unit for each of the parts that the splitter asks
    for, a stage is something, and the first draw that ends the ledger comes
    after at least as many draws as there are parts, and at most twice as
    many; so it goes for a venue too, whose own swaps sell a stage each.
    When it has not, a stage is nothing, and no number of draws or of such
    swaps changes anything. -/
theorem stages_end {total : Word128} (hpos : 0 < total.toNat) (splitter : UInt64) :
    let l := Ledger.start total.toNat splitter
    let parts := max splitter.toNat 1
    l.stage ≤ total.toNat ∧
    (∀ n, (l.drawStages n).isExhausted = true ↔ total.toNat ≤ n * l.stage) ∧
    (parts ≤ total.toNat →
      0 < l.stage ∧ min total.toNat parts ≤ l.stages ∧ l.stages ≤ 2 * parts ∧
      (∀ n, (l.drawStages n).isExhausted = true ↔ l.stages ≤ n)) ∧
    (total.toNat < parts →
      l.stage = 0 ∧ ∀ n, l.drawStages n = l ∧ (l.drawStages n).isExhausted = false) ∧
    (∀ (policy : Policy) (now : Int64) (venue : Key) (s : Store), policy.splitter = splitter →
      ledgerOf s venue = .ok none →
      ∃ start, runOn (handleSelfSwap policy now venue total.toNat true) s =
          (.ok (.opened l), start) ∧
        ∀ swaps : List OwnSwap, (∀ x ∈ swaps, x.SellsStage l) →
          (parts ≤ total.toNat →
            (swaps.length < l.stages →
              ledgerOf (afterSwaps policy venue start swaps) venue =
                .ok (some (l.drawStages swaps.length))) ∧
            (swaps.length = l.stages →
              ledgerOf (afterSwaps policy venue start swaps) venue = .ok none ∧
              statusOf (afterSwaps policy venue start swaps) venue = .ok .notTracked)) ∧
          (total.toNat < parts →
            ledgerOf (afterSwaps policy venue start swaps) venue = .ok (some l))) := by
  intro l parts
  have hle := toNat_le_maxAmount total
  refine ⟨Ledger.stage_le .., Ledger.isExhausted_drawStages, fun hparts => ?_, fun hfew => ?_,
    fun policy now venue s hsplitter hnone => ?_⟩
  · have hstage : 0 < l.stage := Ledger.stage_pos_iff.2 hparts
    refine ⟨hstage, ?_, Ledger.stages_le hstage, fun n => ?_⟩
    · exact Nat.le_trans (Nat.min_le_right ..) (Ledger.le_stages hstage)
    · rw [Ledger.isExhausted_drawStages, Ledger.stages_le_iff hstage]
  · exact ⟨Ledger.stage_eq_zero hfew, Ledger.undersized_never_ends hpos hfew⟩
  · subst hsplitter
    refine ⟨opened policy now venue total.toNat s, ?_, fun swaps hsells =>
      ⟨fun hparts => ⟨fun hleft => ?_, fun hlast => ?_⟩, fun hfew => ?_⟩⟩
    · rw [runOn_handleSelfSwap_of_pos policy now (Nat.ne_of_gt hpos), hnone]
      rfl
    · have hstage : 0 < l.stage := Ledger.stage_pos_iff.2 hparts
      have hnot := Nat.not_le.2 hleft
      rw [Ledger.stages_le_iff hstage] at hnot
      exact ledgerOf_afterStages hle hsells (Nat.not_le.1 hnot)
    · exact told_of_lastStage hle (Ledger.stage_pos_iff.2 hparts) hsells hlast
    · have hzero : l.stage = 0 := Ledger.stage_eq_zero hfew
      have hleft : swaps.length * l.stage < total.toNat := by
        rw [hzero, Nat.mul_zero]
        exact hpos
      rw [ledgerOf_afterStages hle hsells hleft, (Ledger.undersized_never_ends hpos hfew _).1]

/-- A hundred in 51 parts: stages of one, a hundred of them. -/
theorem stages_end_hundred :
    0 < (100 : Word128).toNat ∧ (Ledger.start 100 51).stage = 1 ∧
      ((Ledger.start 100 51).drawStages 99).isExhausted = false ∧
      (∀ n, ((Ledger.start 100 51).drawStages n).isExhausted = true ↔ 100 ≤ n) ∧
      ∃ start, runOn (handleSelfSwap ⟨51, 0, .both, 0⟩ 7 .zero 100 true) .empty =
          (.ok (.opened (.start 100 51)), start) ∧
        statusOf (afterSwaps ⟨51, 0, .both, 0⟩ .zero start (List.replicate 100 ⟨8, 1, true⟩))
          .zero = .ok .notTracked := by
  have hpos : 0 < (100 : Word128).toNat := by decide
  have hparts : max (51 : UInt64).toNat 1 ≤ (100 : Word128).toNat := by decide
  have hstages : (Ledger.start 100 51).stages = 100 := by decide
  obtain ⟨-, -, henough, -, hsold⟩ := stages_end hpos 51
  obtain ⟨-, -, -, hends⟩ := henough hparts
  obtain ⟨start, hopened, hrun⟩ :=
    hsold ⟨51, 0, .both, 0⟩ 7 .zero .empty rfl (ledgerOf_empty .zero)
  have hsells : ∀ x ∈ List.replicate 100 (⟨8, 1, true⟩ : OwnSwap),
      x.SellsStage (.start (100 : Word128).toNat 51) := by
    intro x hx
    rw [(List.mem_replicate.1 hx).2]
    exact ⟨rfl, rfl⟩
  have hlast : (List.replicate 100 (⟨8, 1, true⟩ : OwnSwap)).length =
      (Ledger.start (100 : Word128).toNat 51).stages := by
    rw [List.length_replicate]
    exact hstages.symm
  have hends' : ∀ n, ((Ledger.start 100 51).drawStages n).isExhausted = true ↔ 100 ≤ n := by
    intro n
    rw [← hstages]
    exact hends n
  refine ⟨hpos, rfl, Bool.eq_false_iff.2 fun h => ?_, hends', start, hopened,
    (((hrun _ hsells).1 hparts).2 hlast).2⟩
  have hmany := (hends' 99).1 h
  omega

/-- A single unit in fifty parts: its stage is nothing, so no number of draws
    ends the ledger, neither one nor a hundred nor any other. -/
theorem single_unit_never_ends :
    ¬ (0 < (Ledger.start 1 50).stage ∧ (Ledger.start 1 50).stage ≤ 1) ∧
      ¬ ∃ n, ((Ledger.start 1 50).drawStages n).isExhausted = true := by
  refine ⟨by decide, ?_⟩
  rintro ⟨n, hn⟩
  rw [(Ledger.undersized_never_ends (by decide) (by decide) n).2] at hn
  cases hn

end PoolWatch.Tracking
