import PoolWatch.Swap

/-! # The calls of a swap

    Among the calls of a swap there is one to the watched program, the swap
    itself.  What stands before it sets the compute budget and opens a token
    account, and what stands after it pays the paid relay. -/

namespace PoolWatch.Swap

/-! ## Parts -/

/-- Where a swap takes from and where it puts. -/
def ends (payer native mint : Key) (action : TradeAction) : Key × Key :=
  match action with
  | .buy => (native, Derived.tokenAccount payer mint)
  | .sell => (Derived.tokenAccount payer mint, native)

/-- What stands before the swap. -/
def opening (payer mint : Key) (order : SwapOrder) : List Call :=
  (if 0 < order.compute.limit then [computeLimit order.compute.limit] else []) ++
    (if 0 < order.compute.price then [computePrice order.compute.price] else []) ++
    match order.action with
    | .buy => [openTokenAccount payer mint]
    | .sell => []

/-- The swap itself. -/
def traded (payer native mint : Key) (order : SwapOrder) : Call :=
  swapBaseIn order.keys (ends payer native mint order.action).1
    (ends payer native mint order.action).2 payer order.amountIn order.minimumOut

/-- What stands after the swap. -/
def closing (payer : Key) (options : SwapOptions) (channel : Channel) : List Call :=
  match channel with
  | .paidRelay =>
    (if 0 < options.tipLamports then [relayTip payer options.tipLamports] else []) ++ [relayMemo]
  | _ => []

theorem ends_sell (payer native mint : Key) : (ends payer native mint .sell).2 = native := rfl

variable {payer native mint : Key} {options : SwapOptions} {order : SwapOrder} {channel : Channel}

theorem calls_eq {nativeIsBase : Bool} (hmint : order.keys.mint? = some (mint, nativeIsBase)) :
    calls payer native options order channel =
      .ok (opening payer mint order ++
        traded payer native mint order :: closing payer options channel) := by
  unfold calls opening traded closing
  rw [hmint]
  cases order.action <;> cases channel <;> simp [ends]

/-- A swap whose calls can be listed has a mint. -/
theorem mint_of_calls {cs : List Call} (h : calls payer native options order channel = .ok cs) :
    ∃ mint nativeIsBase, order.keys.mint? = some (mint, nativeIsBase) := by
  unfold calls at h
  cases hmint : order.keys.mint? with
  | none =>
    rw [hmint] at h
    cases h
  | some found => exact ⟨found.1, found.2, rfl⟩

/-- The message of a swap is compiled from its calls. -/
theorem message_eq_ok {blockhash : Key} {m : Message}
    (h : message payer native options order channel blockhash = .ok m) :
    ∃ cs, calls payer native options order channel = .ok cs ∧
      Message.compile payer cs options.lookupTable.toList blockhash = .ok m := by
  unfold message at h
  cases hcalls : calls payer native options order channel with
  | error e =>
    rw [hcalls] at h
    cases h
  | ok cs =>
    rw [hcalls] at h
    dsimp only at h
    cases hcompile : Message.compile payer cs options.lookupTable.toList blockhash with
    | error e =>
      rw [hcompile] at h
      cases h
    | ok m' =>
      rw [hcompile] at h
      obtain rfl := Except.ok.inj h
      exact ⟨cs, rfl, hcompile⟩

/-- The transaction of a swap is its message, signed. -/
theorem transaction_eq_ok {seed : Bytes} {blockhash : Key} {tx : Transaction}
    (h : transaction seed native options order channel blockhash = .ok tx) :
    ∃ m, message (keyOfSeed seed) native options order channel blockhash = .ok m ∧
      tx = .signed seed m := by
  unfold transaction at h
  cases hm : message (keyOfSeed seed) native options order channel blockhash with
  | error e =>
    rw [hm] at h
    cases h
  | ok m =>
    rw [hm] at h
    exact ⟨m, rfl, (Except.ok.inj h).symm⟩

/-! ## What the other calls are -/

/-- A call that is not to the watched program, with few accounts and little data. -/
structure IsAside (c : Call) : Prop where
  program : c.program ≠ Address.venueProgram
  accounts : c.accounts.length ≤ 6
  data : c.data.length ≤ 32

theorem aside_opening {c : Call} (hc : c ∈ opening payer mint order) : IsAside c := by
  have hbudget : Address.computeBudgetProgram ≠ Address.venueProgram := by decide
  have haccount : Address.tokenAccountProgram ≠ Address.venueProgram := by decide
  unfold opening at hc
  rw [List.mem_append, List.mem_append] at hc
  obtain (hc | hc) | hc := hc
  · split at hc
    · rw [List.mem_singleton.1 hc]
      exact ⟨hbudget, by simp [computeLimit], by simp [computeLimit, leOfWord32]⟩
    · cases hc
  · split at hc
    · rw [List.mem_singleton.1 hc]
      exact ⟨hbudget, by simp [computePrice], by simp [computePrice, leOfWord64]⟩
    · cases hc
  · split at hc
    · rw [List.mem_singleton.1 hc]
      exact ⟨haccount, Nat.le_refl _, by simp [openTokenAccount]⟩
    · cases hc

theorem aside_closing {c : Call} (hc : c ∈ closing payer options channel) : IsAside c := by
  have hsystem : Address.systemProgram ≠ Address.venueProgram := by decide
  have hmemo : Address.memoProgram ≠ Address.venueProgram := by decide
  unfold closing at hc
  split at hc
  · rcases List.mem_append.1 hc with hc | hc
    · split at hc
      · rw [List.mem_singleton.1 hc]
        exact ⟨hsystem, by simp [relayTip], by simp [relayTip, leOfWord32, leOfWord64]⟩
      · cases hc
    · rw [List.mem_singleton.1 hc]
      exact ⟨hmemo, by simp [relayMemo], by decide +kernel⟩
  · cases hc

theorem length_opening_le : (opening payer mint order).length ≤ 3 := by
  unfold opening
  split <;> split <;> split <;> simp

theorem length_closing_le : (closing payer options channel).length ≤ 2 := by
  unfold closing
  split
  · split <;> simp
  · simp

theorem length_swapBaseIn_le (keys : PoolKeys) (source destination owner : Key)
    (amountIn minimumOut : UInt64) :
    (swapBaseIn keys source destination owner amountIn minimumOut).accounts.length ≤ 18 := by
  unfold swapBaseIn
  split <;> simp

/-- None of a swap's calls has much data. -/
theorem length_data_le {cs : List Call} (h : calls payer native options order channel = .ok cs)
    {c : Call} (hc : c ∈ cs) : c.data.length ≤ 32 := by
  obtain ⟨mint, nativeIsBase, hmint⟩ := mint_of_calls h
  rw [calls_eq hmint] at h
  obtain rfl := Except.ok.inj h
  rcases List.mem_append.1 hc with hc | hc
  · exact (aside_opening hc).data
  rcases List.mem_cons.1 hc with rfl | hc
  · simp [traded, swapBaseIn, Instruction.encodeSwap, leOfWord64]
  · exact (aside_closing hc).data

end PoolWatch.Swap
