import PoolWatch.Proofs.Tracking.Lifecycle
import Mathlib.Algebra.BigOperators.Group.List.Basic

/-! # Drawing on a ledger

    A ledger is opened with an amount, and the swaps after that draw on it.
    What is left depends on what was drawn in all: not on the order of the
    swaps, not on when they were handled, and not on those in between that
    failed or moved nothing.  The swap that brings the sum up to the amount
    closes the ledger and lets the venue go. -/

namespace PoolWatch.Tracking

/-! ## Sums -/

namespace Ledger

variable {splitter : UInt64} {total drawn : Nat}

theorem consume_consume (l : Ledger) (first second : Nat) :
    (l.consume first).consume second = l.consume (first + second) := by
  unfold consume
  rw [Nat.sub_sub]

theorem isExhausted_consume_start :
    ((start total splitter).consume drawn).isExhausted = true ↔ total ≤ drawn := by
  simp [isExhausted, consume, start, Nat.sub_eq_zero_iff_le]

end Ledger

/-- An own swap: when it is handled, what it moved, and whether it went through. -/
structure OwnSwap where
  now : Int64
  amount : Word128
  succeeded : Bool

namespace OwnSwap

/-- A swap without its time. -/
def deal (x : OwnSwap) : Word128 × Bool :=
  (x.amount, x.succeeded)

/-- What a swap draws. -/
def drawn (x : OwnSwap) : Nat :=
  if x.succeeded then x.amount.toNat else 0

/-- A swap that failed or moved nothing draws nothing. -/
theorem drawn_eq_zero_iff {x : OwnSwap} :
    x.drawn = 0 ↔ x.succeeded = false ∨ x.amount.toNat = 0 := by
  unfold drawn
  cases x.succeeded <;> simp

/-- Handles a swap of a venue. -/
def run (policy : Policy) (venue : Key) (x : OwnSwap) (s : Store) :
    Except TrackerError LedgerOutcome × Store :=
  runOn (handleSelfSwap policy x.now venue x.amount.toNat x.succeeded) s

section Run

variable {policy : Policy} {venue : Key} {x : OwnSwap} {s : Store}

theorem run_of_drawn_zero (h : x.drawn = 0) : x.run policy venue s = (.ok .skipped, s) := by
  apply runOn_handleSelfSwap_skipped
  rintro ⟨hsucceeded, hpos⟩
  rcases drawn_eq_zero_iff.1 h with hfailed | hnothing
  · rw [hsucceeded] at hfailed
    cases hfailed
  · exact hpos hnothing

theorem run_of_drawn_pos (h : x.drawn ≠ 0) {l : Ledger}
    (hledger : ledgerOf s venue = .ok (some l)) :
    x.run policy venue s =
      if (l.consume x.drawn).isExhausted then
        (.ok .exhausted, withStatus x.now venue .notTracked (withoutLedger venue s))
      else (.ok (.decremented (l.consume x.drawn)), withLedger venue (l.consume x.drawn) s) := by
  have hsucceeded : x.succeeded = true := by
    by_contra hfailed
    exact h (drawn_eq_zero_iff.2 (.inl (Bool.eq_false_iff.2 hfailed)))
  have hdrawn : x.drawn = x.amount.toNat := if_pos hsucceeded
  rw [hdrawn] at h ⊢
  unfold run
  rw [hsucceeded, runOn_handleSelfSwap_of_pos policy x.now h, hledger]

end Run

end OwnSwap

/-- What some swaps draw in all. -/
def drawnInAll (swaps : List OwnSwap) : Nat :=
  (swaps.map OwnSwap.drawn).sum

theorem drawnInAll_snoc (swaps : List OwnSwap) (x : OwnSwap) :
    drawnInAll (swaps ++ [x]) = drawnInAll swaps + x.drawn := by
  simp [drawnInAll]

/-- What is drawn in all does not depend on the order, nor on the times. -/
theorem drawnInAll_eq_of_perm {swaps swaps' : List OwnSwap}
    (h : (swaps'.map OwnSwap.deal).Perm (swaps.map OwnSwap.deal)) :
    drawnInAll swaps' = drawnInAll swaps := by
  have hdeals : ∀ swaps : List OwnSwap,
      swaps.map OwnSwap.drawn =
        (swaps.map OwnSwap.deal).map fun d => if d.2 then d.1.toNat else 0 := by
    intro swaps
    rw [List.map_map]
    rfl
  unfold drawnInAll
  rw [hdeals, hdeals]
  exact (h.map _).sum_eq

/-- The store after own swaps of a venue, one after the other. -/
def afterSwaps (policy : Policy) (venue : Key) (s : Store) (swaps : List OwnSwap) : Store :=
  swaps.foldl (fun s x => (x.run policy venue s).2) s

/-! ## Runs of swaps -/

section Runs

variable {policy : Policy} {venue : Key} {s : Store}

theorem afterSwaps_append (swaps swaps' : List OwnSwap) :
    afterSwaps policy venue s (swaps ++ swaps') =
      afterSwaps policy venue (afterSwaps policy venue s swaps) swaps' :=
  List.foldl_append ..

theorem afterSwaps_snoc (swaps : List OwnSwap) (x : OwnSwap) :
    afterSwaps policy venue s (swaps ++ [x]) =
      (x.run policy venue (afterSwaps policy venue s swaps)).2 :=
  afterSwaps_append swaps [x]

/-- A swap that draws nothing may as well not have been. -/
theorem afterSwaps_insert {x : OwnSwap} (h : x.drawn = 0) (earlier later : List OwnSwap) :
    afterSwaps policy venue s (earlier ++ x :: later) =
      afterSwaps policy venue s (earlier ++ later) := by
  rw [afterSwaps_append, afterSwaps_append]
  show afterSwaps policy venue (x.run policy venue _).2 later = _
  rw [OwnSwap.run_of_drawn_zero h]

/-- Of two ledgers of a venue, only the later one shows. -/
theorem withLedger_withLedger (l l' : Ledger) :
    withLedger venue l' (withLedger venue l s) = withLedger venue l' s :=
  s.set_set ..

/-- The store in which the ledger of a venue was just opened. -/
def opened (policy : Policy) (now : Int64) (venue : Key) (total : Nat) (s : Store) : Store :=
  withStatus now venue .both (withLedger venue (.start total policy.splitter) s)

variable {now : Int64} {total : Nat}

@[simp] theorem statusOf_opened : statusOf (opened policy now venue total s) venue = .ok .both :=
  statusOf_withStatus_self ..

/-- Putting the ledger down once more that was just opened changes nothing. -/
theorem withLedger_opened :
    withLedger venue (.start total policy.splitter) (opened policy now venue total s) =
      opened policy now venue total s := by
  apply Store.set_eq_self
  unfold opened withStatus withLedger
  rw [Store.get?_putRecord, if_neg nofun, Store.get?_putRecord, if_pos ⟨rfl, rfl⟩]

theorem ledgerOf_withLedger_start (hle : total ≤ Ledger.maxAmount) (drawn : Nat) (s : Store) :
    ledgerOf (withLedger venue ((Ledger.start total policy.splitter).consume drawn) s) venue =
      .ok (some ((Ledger.start total policy.splitter).consume drawn)) :=
  ledgerOf_withLedger_self venue ((Ledger.fits_start hle).consume drawn) s

/-- How a swap goes that finds a ledger with something left. -/
theorem run_withLedger (hle : total ≤ Ledger.maxAmount) {drawn : Nat} (x : OwnSwap) (s : Store) :
    x.run policy venue (withLedger venue ((Ledger.start total policy.splitter).consume drawn) s) =
      if x.drawn = 0 then
        (.ok .skipped, withLedger venue ((Ledger.start total policy.splitter).consume drawn) s)
      else if total ≤ drawn + x.drawn then
        (.ok .exhausted, withStatus x.now venue .notTracked (withoutLedger venue
          (withLedger venue ((Ledger.start total policy.splitter).consume drawn) s)))
      else
        (.ok (.decremented ((Ledger.start total policy.splitter).consume (drawn + x.drawn))),
          withLedger venue ((Ledger.start total policy.splitter).consume (drawn + x.drawn)) s) := by
  by_cases hzero : x.drawn = 0
  · rw [if_pos hzero, OwnSwap.run_of_drawn_zero hzero]
  · rw [if_neg hzero, OwnSwap.run_of_drawn_pos hzero (ledgerOf_withLedger_start hle drawn s),
      Ledger.consume_consume, withLedger_withLedger]
    by_cases hend : total ≤ drawn + x.drawn
    · rw [if_pos hend, if_pos (Ledger.isExhausted_consume_start.2 hend)]
    · rw [if_neg hend, if_neg fun h => hend (Ledger.isExhausted_consume_start.1 h)]

/-- As long as something is left, the store is as it was when the ledger was
    opened, but for what was drawn in all. -/
theorem afterSwaps_opened (hle : total ≤ Ledger.maxAmount) {swaps : List OwnSwap}
    (hleft : drawnInAll swaps < total) :
    afterSwaps policy venue (opened policy now venue total s) swaps =
      withLedger venue ((Ledger.start total policy.splitter).consume (drawnInAll swaps))
        (opened policy now venue total s) := by
  induction swaps using List.reverseRecOn with
  | nil => exact withLedger_opened.symm
  | append_singleton swaps x ih =>
    rw [drawnInAll_snoc] at hleft ⊢
    rw [afterSwaps_snoc, ih (by omega), run_withLedger hle]
    by_cases hzero : x.drawn = 0
    · rw [if_pos hzero, hzero, Nat.add_zero]
    · rw [if_neg hzero, if_neg (by omega)]

/-- What a swap is answered that finds something left. -/
theorem run_fst_of_left (hle : total ≤ Ledger.maxAmount) {swaps : List OwnSwap}
    (hleft : drawnInAll swaps < total) (x : OwnSwap) :
    (x.run policy venue (afterSwaps policy venue (opened policy now venue total s) swaps)).1 =
      .ok (
        if x.drawn = 0 then .skipped
        else if drawnInAll (swaps ++ [x]) < total then
          .decremented ((Ledger.start total policy.splitter).consume (drawnInAll (swaps ++ [x])))
        else .exhausted) := by
  rw [afterSwaps_opened hle hleft, run_withLedger hle, drawnInAll_snoc]
  by_cases hzero : x.drawn = 0
  · rw [if_pos hzero, if_pos hzero]
  · rw [if_neg hzero, if_neg hzero]
    by_cases hend : total ≤ drawnInAll swaps + x.drawn
    · rw [if_pos hend, if_neg (by omega)]
    · rw [if_neg hend, if_pos (by omega)]

/-- The swap that reaches the amount closes the ledger and lets the venue go. -/
theorem told_of_reached (hle : total ≤ Ledger.maxAmount) {swaps : List OwnSwap} {x : OwnSwap}
    (hleft : drawnInAll swaps < total) (hend : total ≤ drawnInAll (swaps ++ [x])) :
    ledgerOf (afterSwaps policy venue (opened policy now venue total s) (swaps ++ [x])) venue =
        .ok none ∧
      statusOf (afterSwaps policy venue (opened policy now venue total s) (swaps ++ [x])) venue =
        .ok .notTracked := by
  rw [drawnInAll_snoc] at hend
  rw [afterSwaps_snoc, afterSwaps_opened hle hleft, run_withLedger hle, if_neg (by omega),
    if_pos hend, ledgerOf_withStatus, ledgerOf_withoutLedger_self, statusOf_withStatus_self]
  exact ⟨rfl, rfl⟩

/-- Swaps that draw the same in all leave the same store. -/
theorem afterSwaps_congr (hle : total ≤ Ledger.maxAmount) {swaps swaps' : List OwnSwap}
    (hleft : drawnInAll swaps < total) (hsum : drawnInAll swaps' = drawnInAll swaps) :
    afterSwaps policy venue (opened policy now venue total s) swaps' =
      afterSwaps policy venue (opened policy now venue total s) swaps := by
  rw [afterSwaps_opened hle hleft, afterSwaps_opened hle (hsum ▸ hleft), hsum]

end Runs

/-! ## The sum decides -/

/-- On a venue without a ledger, a swap of a positive amount opens one.  After
    any further swaps that draw less than that in all, the ledger has what is
    left of it.  The next swap is passed over when it failed or moved nothing;
    else it is drawn, and the one that reaches the amount ends the ledger and
    lets the venue go.  So swaps that draw the same in all leave the same
    store, whatever their order and their times, and a swap that failed or
    moved nothing has no effect anywhere. -/
theorem ledger_follows_sum (policy : Policy) (now : Int64) {venue : Key} {s : Store}
    {total : Word128} (hpos : 0 < total.toNat) (hnone : ledgerOf s venue = .ok none) :
    ∃ start : Store,
      runOn (handleSelfSwap policy now venue total.toNat true) s =
        (.ok (.opened ⟨total.toNat, total.toNat, total.toNat / max policy.splitter.toNat 1⟩),
          start) ∧
      (∀ swaps, drawnInAll swaps < total.toNat →
        ledgerOf (afterSwaps policy venue start swaps) venue =
          .ok (some ⟨total.toNat, total.toNat - drawnInAll swaps,
            total.toNat / max policy.splitter.toNat 1⟩) ∧
        statusOf (afterSwaps policy venue start swaps) venue = .ok .both) ∧
      (∀ (swaps : List OwnSwap) (x : OwnSwap), drawnInAll swaps < total.toNat →
        (x.run policy venue (afterSwaps policy venue start swaps)).1 = .ok (
          if x.succeeded = false ∨ x.amount.toNat = 0 then .skipped
          else if drawnInAll (swaps ++ [x]) < total.toNat then
            .decremented ⟨total.toNat, total.toNat - drawnInAll (swaps ++ [x]),
              total.toNat / max policy.splitter.toNat 1⟩
          else .exhausted)) ∧
      (∀ swaps x, drawnInAll swaps < total.toNat → total.toNat ≤ drawnInAll (swaps ++ [x]) →
        ledgerOf (afterSwaps policy venue start (swaps ++ [x])) venue = .ok none ∧
        statusOf (afterSwaps policy venue start (swaps ++ [x])) venue = .ok .notTracked) ∧
      (∀ swaps swaps', drawnInAll swaps < total.toNat → drawnInAll swaps' = drawnInAll swaps →
        afterSwaps policy venue start swaps' = afterSwaps policy venue start swaps) ∧
      (∀ swaps swaps' : List OwnSwap, drawnInAll swaps < total.toNat →
        (swaps'.map OwnSwap.deal).Perm (swaps.map OwnSwap.deal) →
        afterSwaps policy venue start swaps' = afterSwaps policy venue start swaps) ∧
      (∀ (earlier later : List OwnSwap) (x : OwnSwap),
        x.succeeded = false ∨ x.amount.toNat = 0 →
        afterSwaps policy venue start (earlier ++ x :: later) =
          afterSwaps policy venue start (earlier ++ later)) := by
  have hle := toNat_le_maxAmount total
  refine ⟨opened policy now venue total.toNat s, ?_, fun swaps hleft => ?_,
    fun swaps x hleft => ?_, fun swaps x hleft hend => told_of_reached hle hleft hend,
    fun swaps swaps' hleft hsum => afterSwaps_congr hle hleft hsum,
    fun swaps swaps' hleft hperm => afterSwaps_congr hle hleft (drawnInAll_eq_of_perm hperm),
    fun earlier later x hnothing =>
      afterSwaps_insert (OwnSwap.drawn_eq_zero_iff.2 hnothing) earlier later⟩
  · rw [runOn_handleSelfSwap_of_pos policy now (Nat.ne_of_gt hpos), hnone]
    rfl
  · rw [afterSwaps_opened hle hleft, ledgerOf_withLedger_start hle, statusOf_withLedger,
      statusOf_opened]
    exact ⟨rfl, rfl⟩
  · rw [run_fst_of_left hle hleft]
    simp only [OwnSwap.drawn_eq_zero_iff]
    rfl

/-- Of a thousand, 400 and then 599 are drawn, with two swaps in between that
    draw nothing.  One is left, and drawing more than that ends the ledger. -/
theorem ledger_follows_sum_to_end :
    let swaps : List OwnSwap := [⟨1, 400, true⟩, ⟨2, 700, false⟩, ⟨3, 0, true⟩, ⟨4, 599, true⟩]
    let last : OwnSwap := ⟨5, 12, true⟩
    0 < (1000 : Word128).toNat ∧ ledgerOf .empty .zero = .ok none ∧
      drawnInAll swaps < (1000 : Word128).toNat ∧
      (1000 : Word128).toNat ≤ drawnInAll (swaps ++ [last]) ∧
      ∃ start, runOn (handleSelfSwap .standard 0 .zero (1000 : Word128).toNat true) .empty =
          (.ok (.opened ⟨1000, 1000, 20⟩), start) ∧
        ledgerOf (afterSwaps .standard .zero start swaps) .zero = .ok (some ⟨1000, 1, 20⟩) ∧
        (last.run .standard .zero (afterSwaps .standard .zero start swaps)).1 = .ok .exhausted ∧
        statusOf (afterSwaps .standard .zero start (swaps ++ [last])) .zero = .ok .notTracked := by
  intro swaps last
  have hpos : 0 < (1000 : Word128).toNat := by decide
  have hleft : drawnInAll swaps < (1000 : Word128).toNat := by decide
  have hend : (1000 : Word128).toNat ≤ drawnInAll (swaps ++ [last]) := by decide
  have hsum : drawnInAll swaps = 999 := by decide
  have hgoes : ¬ (last.succeeded = false ∨ last.amount.toNat = 0) := by decide
  obtain ⟨start, hopened, hledger, hanswer, hreached, -⟩ :=
    ledger_follows_sum .standard 0 hpos (ledgerOf_empty .zero)
  have hone := (hledger swaps hleft).1
  have hlast := hanswer swaps last hleft
  rw [hsum] at hone
  rw [if_neg hgoes, if_neg (Nat.not_lt.2 hend)] at hlast
  exact ⟨hpos, ledgerOf_empty .zero, hleft, hend, start, hopened, hone, hlast,
    (hreached swaps last hleft hend).2⟩

end PoolWatch.Tracking
