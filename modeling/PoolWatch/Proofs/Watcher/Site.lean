import PoolWatch.Proofs.Registry.Pools
import PoolWatch.Proofs.Transaction.ReadBack
import PoolWatch.Proofs.Watcher.Swap

/-! # Where a swap says who swaps

    A swap is written with one more account when its pool is of the present
    version, and read with one more account when its market is run by the
    order-book program.  Where the two tests differ, everything past the
    market is read one place too early: the market's authority is taken for
    the source, the source for the destination, and the destination for the
    signer. -/

namespace PoolWatch.Watcher

/-! ## Written and read -/

/-- The pool is of the present version, and its market is run by another
    program than the order-book program. -/
def IsMisread (keys : PoolKeys) : Prop :=
  keys.version = PoolKeys.poolVersion ∧ keys.marketProgramId ≠ Address.orderBookProgram

instance (keys : PoolKeys) : Decidable (IsMisread keys) :=
  inferInstanceAs (Decidable (_ ∧ _))

/-- Whom a reader of a swap takes its parties to be. -/
def readParties (keys : PoolKeys) (source destination owner : Key) : Parties :=
  if IsMisread keys then ⟨keys.marketAuthority, source, destination⟩
  else ⟨source, destination, owner⟩

/-- The key that stands where a reader looks for the program of the market. -/
def readProgram (keys : PoolKeys) : Key :=
  if keys.version = PoolKeys.poolVersion then keys.marketProgramId else keys.marketId

section Accounts

variable {keys : PoolKeys} (source destination owner : Key) (amountIn minimumOut : UInt64)

/-- The keys of a swap in the order they are written. -/
def writtenKeys (keys : PoolKeys) (source destination owner : Key)
    (amountIn minimumOut : UInt64) : List Key :=
  (Swap.swapBaseIn keys source destination owner amountIn minimumOut).accounts.map AccountMeta.key

theorem venue_writtenKeys :
    (writtenKeys keys source destination owner amountIn minimumOut)[swapVenue]? =
      some keys.id := rfl

theorem program_writtenKeys :
    (writtenKeys keys source destination owner amountIn minimumOut)[swapMarketProgram]? =
      some (readProgram keys) := by
  unfold writtenKeys Swap.swapBaseIn readProgram
  split <;> rfl

/-- What a reader finds at the places it looks at. -/
theorem parties_writtenKeys
    (hmarket : keys.version ≠ PoolKeys.poolVersion → keys.marketId ≠ Address.orderBookProgram) :
    let written := writtenKeys keys source destination owner amountIn minimumOut
    let places := SwapParties.ofMarketProgram (readProgram keys)
    let parties := readParties keys source destination owner
    written[places.source]? = some parties.source ∧
      written[places.destination]? = some parties.destination ∧
      written[places.signer]? = some parties.signer := by
  intro written places parties
  by_cases hversion : keys.version = PoolKeys.poolVersion
  · have hread : readProgram keys = keys.marketProgramId := if_pos hversion
    by_cases hprogram : keys.marketProgramId = Address.orderBookProgram
    · -- written and read with one more account
      have hplaces : places = ⟨15, 16, 17⟩ := if_pos (hread.trans hprogram)
      have hparties : parties = ⟨source, destination, owner⟩ := if_neg fun h => h.2 hprogram
      simp only [hplaces, hparties, written, writtenKeys, Swap.swapBaseIn, if_pos hversion]
      exact ⟨rfl, rfl, rfl⟩
    · -- written with one more account, and read without it
      have hplaces : places = ⟨14, 15, 16⟩ := if_neg fun h => hprogram (hread.symm.trans h)
      have hparties : parties = ⟨keys.marketAuthority, source, destination⟩ :=
        if_pos ⟨hversion, hprogram⟩
      simp only [hplaces, hparties, written, writtenKeys, Swap.swapBaseIn, if_pos hversion]
      exact ⟨rfl, rfl, rfl⟩
  · -- written and read without it
    have hread : readProgram keys = keys.marketId := if_neg hversion
    have hplaces : places = ⟨14, 15, 16⟩ := if_neg fun h => hmarket hversion (hread.symm.trans h)
    have hparties : parties = ⟨source, destination, owner⟩ := if_neg fun h => hversion h.1
    simp only [hplaces, hparties, written, writtenKeys, Swap.swapBaseIn, if_neg hversion]
    exact ⟨rfl, rfl, rfl⟩

/-- The parties are read as they were written, unless the swap is misread and
    they are not all the same. -/
theorem readParties_eq_iff :
    readParties keys source destination owner = ⟨source, destination, owner⟩ ↔
      ¬ IsMisread keys ∨
        (keys.marketAuthority = source ∧ source = destination ∧ destination = owner) := by
  by_cases h : IsMisread keys
  · have hread : readParties keys source destination owner =
        ⟨keys.marketAuthority, source, destination⟩ := if_pos h
    rw [hread, Parties.mk.injEq]
    exact ⟨.inr, fun hor => hor.resolve_left (not_not_intro h)⟩
  · have hread : readParties keys source destination owner = ⟨source, destination, owner⟩ :=
      if_neg h
    exact ⟨fun _ => .inl h, fun _ => hread⟩

end Accounts

/-! ## Reading -/

section Reading

variable {w : State} {e : Envelope} {ix : CompiledInstruction} {c : Call}

/-- A position of an instruction that stands for a call is resolved to the
    call's account, and the instruction goes on to stand for the call. -/
theorem runOn_resolve (h : w.registry.Carries e ix c) {position : Nat} {key : Key}
    (hkey : (c.accounts.map AccountMeta.key)[position]? = some key) :
    ∃ w', runOn (onRegistry .resolve (Registry.resolve e ix position)) w = (.ok key, w') ∧
      w'.registry.Carries e ix c := by
  refine ⟨w.withRegistry (runOn (Registry.resolve e ix position) w.registry).2, ?_, ?_⟩
  · rw [runOn_onRegistry, h.resolve hkey]
    rfl
  · exact h.of_keepsTables (Registry.resolve_keepsTables e ix position w.registry)

variable {keys : PoolKeys} {source destination owner : Key} {amountIn minimumOut : UInt64}

/-- The venue and the parties of a swap, as they are read. -/
theorem runOn_readSwap
    (h : w.registry.Carries e ix
      (Swap.swapBaseIn keys source destination owner amountIn minimumOut))
    (hmarket : keys.version ≠ PoolKeys.poolVersion → keys.marketId ≠ Address.orderBookProgram) :
    ∃ w', runOn (readSwap e ix) w =
      (.ok (keys.id, readParties keys source destination owner), w') := by
  obtain ⟨hsource, hdestination, hsigner⟩ :=
    parties_writtenKeys source destination owner amountIn minimumOut hmarket
  -- there are as many accounts as the places ask for
  have hlength : ¬ ix.accounts.length ≤
      (SwapParties.ofMarketProgram (readProgram keys)).signer := by
    obtain ⟨hlt, -⟩ := List.getElem?_eq_some_iff.1 hsigner
    rw [writtenKeys, List.length_map, ← h.accounts.length_eq] at hlt
    exact Nat.not_le.2 hlt
  -- five positions, one after the other
  obtain ⟨w₁, hvenue, h₁⟩ := runOn_resolve h (venue_writtenKeys ..)
  obtain ⟨w₂, hprogram, h₂⟩ := runOn_resolve h₁ (program_writtenKeys ..)
  obtain ⟨w₃, hsource, h₃⟩ := runOn_resolve h₂ hsource
  obtain ⟨w₄, hdestination, h₄⟩ := runOn_resolve h₃ hdestination
  obtain ⟨w₅, hsigner, -⟩ := runOn_resolve h₄ hsigner
  refine ⟨w₅, ?_⟩
  unfold readSwap
  rw [runOn_bind_ok hvenue, runOn_bind_ok hprogram]
  dsimp only
  rw [if_neg hlength, runOn_bind_ok hsource, runOn_bind_ok hdestination, runOn_bind_ok hsigner]
  rfl

/-- The site of a swap, when its pool is known. -/
theorem runOn_swapSite
    (h : w.registry.Carries e ix
      (Swap.swapBaseIn keys source destination owner amountIn minimumOut))
    (hmarket : keys.version ≠ PoolKeys.poolVersion → keys.marketId ≠ Address.orderBookProgram)
    (hpool : w.registry.KnowsPool keys.id keys) {mint : Key} {nativeIsBase : Bool}
    (hmint : keys.mint? = some (mint, nativeIsBase)) :
    ∃ w', runOn (swapSite e ix) w =
      (.ok ⟨keys.id, (readParties keys source destination owner).signer, keys, mint⟩, w') := by
  obtain ⟨w', hread⟩ := runOn_readSwap h hmarket
  -- resolving addresses keeps tables, and no pool is forgotten
  have hpool' : w'.registry.KnowsPool keys.id keys := by
    have hkeeps : (Registry.keepsPools.within State.registry).Allows (readSwap e ix).run :=
      allows_readSwap fun position =>
        allows_within .resolve (Registry.resolve_keepsPools e ix position)
    exact hkeeps.rel_of_runOn hread _ _ hpool
  have hkeys : runOn (onRegistry .pool (Registry.poolKeys keys.id)) w' =
      (.ok keys, w'.withRegistry (runOn (Registry.poolKeys keys.id) w'.registry).2) := by
    rw [runOn_onRegistry, hpool'.poolKeys]
    rfl
  have hmint : Registry.mint keys = pure (mint, nativeIsBase) := by
    unfold Registry.mint
    rw [hmint]
  refine ⟨w'.withRegistry (runOn (Registry.poolKeys keys.id) w'.registry).2, ?_⟩
  rw [swapSite_eq, runOn_bind_ok hread]
  dsimp only
  rw [runOn_bind_ok hkeys, hmint]
  rfl

end Reading

end PoolWatch.Watcher
