import Mathlib.Logic.Relation
import PoolWatch.Envelope.Basic
import PoolWatch.Proofs.Text.Signed
import PoolWatch.Trade.Basic

/-! # What the pools paid out

    Of the balances on either side of a transaction, only those count that the
    vault authority held of the mint, and of these only the first.  Entries of
    another mint, of another owner or of no owner may come and go and change
    places (`poolAmount?_of_edits`).

    What the pools paid out is the difference of the two sides when both tell
    an amount, and nothing else whenever one of them does not
    (`poolSideDelta_exact`). -/

namespace PoolWatch

/-! ## Entries -/

namespace TokenBalance

/-- What a vault of the pools held of a mint. -/
def IsOfPools (mint : Key) (b : TokenBalance) : Prop :=
  b.mint = mint ∧ b.owner = some Address.vaultAuthority

/-- An entry of another mint, of another owner, or of no owner. -/
def IsForeign (mint : Key) (b : TokenBalance) : Prop :=
  b.mint ≠ mint ∨ (∃ owner, b.owner = some owner ∧ owner ≠ Address.vaultAuthority) ∨
    b.owner = none

instance (mint : Key) (b : TokenBalance) : Decidable (b.IsOfPools mint) :=
  inferInstanceAs (Decidable (_ ∧ _))

theorem not_isOfPools_iff {mint : Key} {b : TokenBalance} :
    ¬ b.IsOfPools mint ↔ b.IsForeign mint := by
  unfold IsOfPools IsForeign
  cases b.owner with
  | none => simp
  | some owner => simp [imp_iff_not_or]

end TokenBalance

namespace Envelope

open TokenBalance (not_isOfPools_iff)

/-- An amount is a signed integer of 128 bits. -/
def IsAmount (n : Int) : Prop :=
  -(2 ^ 127 : Int) ≤ n ∧ n < (2 ^ 127 : Int)

instance (n : Int) : Decidable (IsAmount n) :=
  inferInstanceAs (Decidable (_ ∧ _))

/-! ## Sides -/

/-- A side tells an amount of a mint: the first entry of the pools writes it,
    whatever stands before and after. -/
def Tells (balances : List TokenBalance) (mint : Key) (n : Int) : Prop :=
  ∃ front b back, balances = front ++ b :: back ∧ (∀ c ∈ front, c.IsForeign mint) ∧
    b.IsOfPools mint ∧ Text.Decimal.Writes b.amount.toList n ∧ IsAmount n

variable {balances balances' : List TokenBalance} {mint : Key} {n : Int}

theorem find?_isOfPools_iff {b : TokenBalance} :
    (balances.find? fun b => b.IsOfPools mint) = some b ↔
      ∃ front back, balances = front ++ b :: back ∧ (∀ c ∈ front, c.IsForeign mint) ∧
        b.IsOfPools mint := by
  rw [List.find?_eq_some_iff_append]
  simp only [decide_eq_true_eq, Bool.not_eq_true', decide_eq_false_iff_not, not_isOfPools_iff]
  constructor
  · rintro ⟨hpools, front, back, hsplit, hfront⟩
    exact ⟨front, back, hsplit, hfront, hpools⟩
  · rintro ⟨front, back, hsplit, hfront, hpools⟩
    exact ⟨hpools, front, back, hsplit, hfront⟩

theorem readAmount_eq_some_iff {text : String} :
    (Text.Decimal.readSigned 128 text).toOption = some n ↔
      Text.Decimal.Writes text.toList n ∧ IsAmount n := by
  have hread : (Text.Decimal.readSigned 128 text).toOption = some n ↔
      Text.Decimal.readSigned 128 text = .ok n := by
    cases Text.Decimal.readSigned 128 text <;> simp [Except.toOption]
  exact hread.trans Text.Decimal.readSigned_eq_ok_iff

theorem poolAmount?_eq_some_iff : poolAmount? balances mint = some n ↔ Tells balances mint n := by
  have hbind : poolAmount? balances mint = (balances.find? fun b => b.IsOfPools mint).bind
      fun b => (Text.Decimal.readSigned 128 b.amount).toOption := rfl
  rw [hbind, Option.bind_eq_some_iff]
  unfold Tells
  constructor
  · rintro ⟨b, hfind, hread⟩
    obtain ⟨front, back, hsplit, hfront, hpools⟩ := find?_isOfPools_iff.1 hfind
    exact ⟨front, b, back, hsplit, hfront, hpools, readAmount_eq_some_iff.1 hread⟩
  · rintro ⟨front, b, back, hsplit, hfront, hpools, hwrites⟩
    exact ⟨b, find?_isOfPools_iff.2 ⟨front, back, hsplit, hfront, hpools⟩,
      readAmount_eq_some_iff.2 hwrites⟩

theorem poolAmount?_eq_none_iff :
    poolAmount? balances mint = none ↔ ¬ ∃ n, Tells balances mint n := by
  rw [Option.eq_none_iff_forall_ne_some, not_exists]
  exact forall_congr' fun n => not_congr poolAmount?_eq_some_iff

theorem Tells.unique {m : Int} (h : Tells balances mint n) (h' : Tells balances mint m) :
    n = m := by
  have hsame := (poolAmount?_eq_some_iff.2 h).symm.trans (poolAmount?_eq_some_iff.2 h')
  exact Option.some.inj hsame

/-! ## Edits -/

/-- An entry that is not of the pools is put in or taken out anywhere, or
    changes places with its neighbour. -/
inductive Edit (mint : Key) : List TokenBalance → List TokenBalance → Prop where
  | insert (front back) {b : TokenBalance} (h : b.IsForeign mint) :
      Edit mint (front ++ back) (front ++ b :: back)
  | remove (front back) {b : TokenBalance} (h : b.IsForeign mint) :
      Edit mint (front ++ b :: back) (front ++ back)
  | exchange (front back) {b c : TokenBalance} (h : b.IsForeign mint ∨ c.IsForeign mint) :
      Edit mint (front ++ b :: c :: back) (front ++ c :: b :: back)

/-- Some edits, one after the other. -/
abbrev Edits (mint : Key) : List TokenBalance → List TokenBalance → Prop :=
  Relation.ReflTransGen (Edit mint)

/-- An edit leaves the entries of the pools as they are, and in their order. -/
theorem Edit.filter_eq (h : Edit mint balances balances') :
    (balances'.filter fun b => b.IsOfPools mint) = balances.filter fun b => b.IsOfPools mint := by
  cases h with
  | insert front back h | remove front back h =>
    have hdrops := not_isOfPools_iff.2 h
    simp [hdrops]
  | exchange front back h =>
    rcases h with h | h
    all_goals
      have hdrops := not_isOfPools_iff.2 h
      simp [List.filter_cons, hdrops]

theorem Edits.filter_eq (h : Edits mint balances balances') :
    (balances'.filter fun b => b.IsOfPools mint) = balances.filter fun b => b.IsOfPools mint := by
  induction h with
  | refl => rfl
  | tail _ hlast ih => rw [hlast.filter_eq, ih]

/-- The entry that counts is the first one of the pools' own. -/
theorem poolAmount?_eq_head? (balances : List TokenBalance) (mint : Key) :
    poolAmount? balances mint = (balances.filter fun b => b.IsOfPools mint).head?.bind fun b =>
      (Text.Decimal.readSigned 128 b.amount).toOption := by
  rw [List.head?_filter]
  rfl

theorem poolAmount?_of_edits (h : Edits mint balances balances') :
    poolAmount? balances' mint = poolAmount? balances mint := by
  rw [poolAmount?_eq_head?, h.filter_eq, ← poolAmount?_eq_head?]

/-! ## Differences -/

variable {e : Envelope} {pre post : Int}

theorem poolSideDelta_of_told (hpre : Tells e.preBalances mint pre)
    (hpost : Tells e.postBalances mint post) (hfits : IsAmount (pre - post)) :
    e.poolSideDelta mint = pre - post := by
  have hspan : ((amountSpan : Nat) : Int) = 2 ^ 128 := by decide
  obtain ⟨hlow, hhigh⟩ := hfits
  unfold poolSideDelta
  rw [poolAmount?_eq_some_iff.2 hpre, poolAmount?_eq_some_iff.2 hpost]
  apply Int.bmod_eq_of_le <;> omega

/-- A side that tells nothing leaves nothing to tell of the other. -/
theorem poolSideDelta_of_untold
    (h : (¬ ∃ pre, Tells e.preBalances mint pre) ∨ ¬ ∃ post, Tells e.postBalances mint post) :
    e.poolSideDelta mint = 0 := by
  unfold poolSideDelta
  rcases h with hpre | hpost
  · rw [poolAmount?_eq_none_iff.2 hpre]
  · rw [poolAmount?_eq_none_iff.2 hpost]
    cases poolAmount? e.preBalances mint <;> rfl

theorem poolSideDelta_of_edits {e' : Envelope} (hpre : Edits mint e.preBalances e'.preBalances)
    (hpost : Edits mint e.postBalances e'.postBalances) :
    e'.poolSideDelta mint = e.poolSideDelta mint := by
  unfold poolSideDelta
  rw [poolAmount?_of_edits hpre, poolAmount?_of_edits hpost]

/-- The envelope with its sides exchanged. -/
def reversed (e : Envelope) : Envelope :=
  { e with preBalances := e.postBalances, postBalances := e.preBalances }

/-- What the pools paid out of a mint, for amounts whose difference and its
    negation are amounts.  Entries that are not of the pools may be put in,
    taken out and moved, on both sides, and it stays the same.  Exchanging
    the sides negates it.  When both sides tell an amount it is their
    difference, and zero in every other case.  A swap counts as a purchase
    exactly when both sides tell an amount and the pools' fell. -/
theorem poolSideDelta_exact (e : Envelope) (mint : Key)
    (hfits : ∀ pre post, Tells e.preBalances mint pre → Tells e.postBalances mint post →
      IsAmount (pre - post) ∧ IsAmount (-(pre - post))) :
    (∀ e' : Envelope, Edits mint e.preBalances e'.preBalances →
      Edits mint e.postBalances e'.postBalances →
      e'.poolSideDelta mint = e.poolSideDelta mint) ∧
    e.reversed.poolSideDelta mint = -e.poolSideDelta mint ∧
    (∀ pre post, Tells e.preBalances mint pre → Tells e.postBalances mint post →
      e.poolSideDelta mint = pre - post) ∧
    ((¬ ∃ pre, Tells e.preBalances mint pre) ∨ (¬ ∃ post, Tells e.postBalances mint post) →
      e.poolSideDelta mint = 0) ∧
    (TradeAction.ofPoolDelta (e.poolSideDelta mint) = .buy ↔
      ∃ pre post, Tells e.preBalances mint pre ∧ Tells e.postBalances mint post ∧ post < pre) := by
  have htold : ∀ pre post, Tells e.preBalances mint pre → Tells e.postBalances mint post →
      e.poolSideDelta mint = pre - post :=
    fun pre post hpre hpost => poolSideDelta_of_told hpre hpost (hfits pre post hpre hpost).1
  refine ⟨fun e' => poolSideDelta_of_edits, ?_, htold, poolSideDelta_of_untold, ?_⟩
  · by_cases hboth : (∃ pre, Tells e.preBalances mint pre) ∧ ∃ post, Tells e.postBalances mint post
    · obtain ⟨⟨pre, hpre⟩, post, hpost⟩ := hboth
      have hback : post - pre = -(pre - post) := by omega
      have hfitsBack : IsAmount (post - pre) := hback ▸ (hfits pre post hpre hpost).2
      rw [htold pre post hpre hpost, ← hback]
      exact poolSideDelta_of_told hpost hpre hfitsBack
    · have hsides := not_and_or.1 hboth
      rw [poolSideDelta_of_untold hsides, poolSideDelta_of_untold (e := e.reversed) hsides.symm]
      rfl
  · rw [TradeAction.ofPoolDelta_eq_buy_iff]
    constructor
    · intro hpaid
      -- something was paid out, so both sides tell an amount
      by_contra hnone
      by_cases hboth :
          (∃ pre, Tells e.preBalances mint pre) ∧ ∃ post, Tells e.postBalances mint post
      · obtain ⟨⟨pre, hpre⟩, post, hpost⟩ := hboth
        rw [htold pre post hpre hpost] at hpaid
        exact hnone ⟨pre, post, hpre, hpost, by omega⟩
      · rw [poolSideDelta_of_untold (not_and_or.1 hboth)] at hpaid
        exact Int.lt_irrefl _ hpaid
    · rintro ⟨pre, post, hpre, hpost, hfell⟩
      rw [htold pre post hpre hpost]
      omega

/-! ## A sale -/

namespace BalanceSample

/-- What a vault held of the token. -/
def held (amount : String) : TokenBalance :=
  ⟨4, .ofNat 3, some Address.vaultAuthority, amount⟩

/-- What someone else held of it. -/
def stranger : TokenBalance :=
  ⟨3, .ofNat 3, some (.ofNat 9), "50"⟩

/-- What no one in particular held of it. -/
def unowned : TokenBalance :=
  ⟨5, .ofNat 3, none, "7"⟩

/-- The vault took seventy tokens in. -/
def sale : Envelope :=
  { Envelope.empty with
    preBalances := [stranger, held "100", held "3"]
    postBalances := [held "+170", unowned] }

/-- The same with the entries of others elsewhere. -/
def rearranged : Envelope :=
  { sale with preBalances := [held "100", stranger, held "3"], postBalances := [held "+170"] }

/-- The same with an amount that cannot be read. -/
def garbled : Envelope :=
  { sale with postBalances := [held "12x", held "170"] }

theorem poolSideDelta_exact_sale :
    sale.poolSideDelta (.ofNat 3) = -70 ∧
      TradeAction.ofPoolDelta (sale.poolSideDelta (.ofNat 3)) ≠ .buy ∧
      sale.reversed.poolSideDelta (.ofNat 3) = 70 ∧
      rearranged.poolSideDelta (.ofNat 3) = -70 ∧
      garbled.poolSideDelta (.ofNat 3) = 0 := by
  have hpre : Tells sale.preBalances (.ofNat 3) 100 :=
    poolAmount?_eq_some_iff.1 (by decide +kernel)
  have hpost : Tells sale.postBalances (.ofNat 3) 170 :=
    poolAmount?_eq_some_iff.1 (by decide +kernel)
  have hfits : ∀ pre post, Tells sale.preBalances (.ofNat 3) pre →
      Tells sale.postBalances (.ofNat 3) post →
      IsAmount (pre - post) ∧ IsAmount (-(pre - post)) := by
    intro pre post hpre' hpost'
    rw [hpre'.unique hpre, hpost'.unique hpost]
    decide
  have hstranger : stranger.IsForeign (.ofNat 3) := .inr (.inl ⟨_, rfl, by decide⟩)
  have hunowned : unowned.IsForeign (.ofNat 3) := .inr (.inr rfl)
  have hmoved : Edits (.ofNat 3) sale.preBalances rearranged.preBalances :=
    .single (.exchange [] [held "3"] (.inl hstranger))
  have htaken : Edits (.ofNat 3) sale.postBalances rearranged.postBalances :=
    .single (.remove [held "+170"] [] hunowned)
  obtain ⟨hedits, hreversed, htold, -, hbuy⟩ := poolSideDelta_exact sale (.ofNat 3) hfits
  have hdelta := htold _ _ hpre hpost
  -- the garbled side tells nothing, although a later entry could be read
  have hgarbled : ¬ ∃ post, Tells garbled.postBalances (.ofNat 3) post :=
    poolAmount?_eq_none_iff.1 (by decide +kernel)
  obtain ⟨-, -, -, hzero, -⟩ := poolSideDelta_exact garbled (.ofNat 3)
    fun pre post _ hpost' => absurd ⟨post, hpost'⟩ hgarbled
  refine ⟨hdelta, fun h => ?_, ?_, ?_, hzero (.inr hgarbled)⟩
  · obtain ⟨pre, post, hpre', hpost', hfell⟩ := hbuy.1 h
    rw [hpre'.unique hpre, hpost'.unique hpost] at hfell
    exact absurd hfell (by decide)
  · rw [hreversed, hdelta]
    rfl
  · rw [hedits rearranged hmoved htaken, hdelta]
    rfl

end BalanceSample

end Envelope

end PoolWatch
