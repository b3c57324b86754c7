import PoolWatch.Proofs.Transaction.Wire

/-! # When a swap can be assembled

    A swap is assembled in three stages: its calls are listed, they are
    compiled, and the message is signed.  The calls of a pool without a
    native side cannot be listed.  They cannot be compiled if the lookup
    table has one of their passive accounts only at an index that is no
    byte.  Nothing else fails: the payer is the only key that any call has
    sign, so its seed is all that the signing asks for. -/

namespace PoolWatch

namespace Message

variable {payer key : Key} {calls : List Call}

/-! ## Passive accounts -/

/-- An account of some calls that none of them has sign and none of them calls. -/
structure IsPassive (calls : List Call) (key : Key) : Prop where
  account : ∃ c ∈ calls, ∃ a ∈ c.accounts, a.key = key
  unsigned : ∀ c ∈ calls, ∀ a ∈ c.accounts, a.key = key → a.isSigner = false
  uncalled : ∀ c ∈ calls, c.program ≠ key

/-- The first place of a passive account in the table is no byte. -/
def Overruns (table : Option TableAccount) (calls : List Call) : Prop :=
  ∃ t ∈ table, ∃ key, IsPassive calls key ∧ ∃ i, t.addresses.idxOf? key = some i ∧ 256 ≤ i

/-- Some call has the payer sign. -/
def Signs (payer : Key) (calls : List Call) : Prop :=
  ∃ c ∈ calls, ∃ a ∈ c.accounts, a.key = payer ∧ a.isSigner = true

/-- If a call has the payer sign, passive accounts are the keys that a table
    may take over. -/
theorem isPassive_iff (hsigns : Signs payer calls) :
    IsPassive calls key ↔
      ∃ u ∈ uses payer calls, u.key = key ∧ u.isSigner = false ∧ u.isInvoked = false := by
  constructor
  · intro h
    obtain ⟨c, hc, a, ha, rfl⟩ := h.account
    obtain ⟨u, hu, hkey⟩ := used_account payer hc ha
    refine ⟨u, hu, hkey, ?_, ?_⟩
    · -- the payer is no exception, because a call has it sign
      rw [Bool.eq_false_iff]
      intro hsigner
      have hsigned : ∃ c ∈ calls, ∃ b ∈ c.accounts, b.key = a.key ∧ b.isSigner = true := by
        rcases signer_of_uses payer hu hsigner with hpayer | hsigned
        · rwa [← hkey, hpayer]
        · rwa [← hkey]
      obtain ⟨c', hc', b, hb, hbkey, hbsigner⟩ := hsigned
      rw [h.unsigned c' hc' b hb hbkey] at hbsigner
      cases hbsigner
    · rw [Bool.eq_false_iff]
      intro hinvoked
      obtain ⟨c', hc', hprogram⟩ := program_of_uses payer hu hinvoked
      exact h.uncalled c' hc' (hprogram.trans hkey)
  · rintro ⟨u, hu, rfl, hsigner, hinvoked⟩
    have hunsigned : ∀ c ∈ calls, ∀ a ∈ c.accounts, a.key = u.key → a.isSigner = false := by
      intro c hc a ha hkey
      rw [Bool.eq_false_iff]
      intro hsigned
      have hcovers := covers_of_call hc (use_of_account ha) hu hkey.symm
      rw [hcovers.signer hsigned] at hsigner
      cases hsigner
    have huncalled : ∀ c ∈ calls, c.program ≠ u.key := by
      intro c hc hprogram
      have hcovers := covers_of_call hc (List.mem_cons_self ..) hu hprogram.symm
      rw [hcovers.invoked rfl] at hinvoked
      cases hinvoked
    refine ⟨?_, hunsigned, huncalled⟩
    -- what is neither called nor the payer is an account
    rcases source_of_uses payer hu with ⟨c, hc, hprogram⟩ | haccount | hpayer
    · exact absurd hprogram (huncalled c hc)
    · exact haccount
    · obtain ⟨c, hc, a, ha, hkey, -⟩ := hsigns
      exact ⟨c, hc, a, ha, hkey.trans hpayer.symm⟩

/-- A table is overrun if its keys are not at indexes that are bytes. -/
theorem overruns_iff (hsigns : Signs payer calls) (table : Option TableAccount) :
    Overruns table calls ↔ ∃ t ∈ table, ¬ Addressable t.addresses (uses payer calls) := by
  unfold Overruns Addressable
  constructor
  · rintro ⟨t, ht, key, hpassive, i, hi, hle⟩
    obtain ⟨u, hu, rfl, hsigner, hinvoked⟩ := (isPassive_iff hsigns).1 hpassive
    refine ⟨t, ht, fun h => ?_⟩
    have hlt := h u hu hsigner hinvoked i hi
    omega
  · rintro ⟨t, ht, h⟩
    push Not at h
    obtain ⟨u, hu, hsigner, hinvoked, i, hi, hle⟩ := h
    have hpassive := (isPassive_iff hsigns).2 ⟨u, hu, rfl, hsigner, hinvoked⟩
    have hlarge : 256 ≤ i := by omega
    exact ⟨t, ht, u.key, hpassive, i, hi, hlarge⟩

/-! ## Signing -/

/-- The payer is the only account that the calls have sign. -/
def SignedBy (payer : Key) (calls : List Call) : Prop :=
  ∀ c ∈ calls, ∀ a ∈ c.accounts, a.isSigner = true → a.key = payer

/-- A message that its payer alone has to sign. -/
structure IsPaidBy (m : Message) (payer : Key) : Prop where
  signers : m.signers = 1
  readonlySigners : m.readonlySigners = 0
  first : m.staticKeys.head? = some payer

/-- Beside the payer there is no signer then. -/
theorem keysOfKind_signer {left : List Use} (isWritable : Bool)
    (hsigners : SignedBy payer calls)
    (hleft : left ⊆ uses payer calls) :
    keysOfKind true isWritable (left.filter fun u => u.key ≠ payer) = [] := by
  unfold keysOfKind
  rw [List.map_eq_nil_iff, List.filter_eq_nil_iff]
  intro u hu hkind
  obtain ⟨hu, hne⟩ := List.mem_filter.1 hu
  have hne : u.key ≠ payer := of_decide_eq_true hne
  have hsigner : u.isSigner = true := by simp_all
  rcases signer_of_uses payer (hleft hu) hsigner with hpayer | ⟨c, hc, a, ha, hkey, hsigned⟩
  · exact hne hpayer
  · exact hne (hkey.symm.trans (hsigners c hc a ha hsigned))

theorem isPaidBy_compile {tables : List TableAccount} {blockhash : Key} {m : Message}
    (hsigners : SignedBy payer calls)
    (h : compile payer calls tables blockhash = .ok m) :
    m.IsPaidBy payer ∧ m.blockhash = blockhash := by
  obtain ⟨drained, left, htaken, hstatic, -, -, -, hhead⟩ := compile_eq_ok h
  have hwritable := keysOfKind_signer true hsigners htaken.subset
  have hreadonly := keysOfKind_signer false hsigners htaken.subset
  refine ⟨⟨?_, ?_, ?_⟩, hhead.blockhash⟩
  · apply UInt8.toNat_inj.1
    rw [hhead.signers, hwritable, hreadonly]
    rfl
  · apply UInt8.toNat_inj.1
    rw [hhead.readonlySigners, hreadonly]
    rfl
  · rw [hstatic]
    rfl

theorem seedsFor?_sole {seed : Bytes} (h : keyOfSeed seed = key) :
    Transaction.seedsFor? [seed] [key] = some [seed] := by
  have hfind : [seed].find? (fun s => decide (keyOfSeed s = key)) = some seed :=
    List.find?_cons_of_pos (decide_eq_true h)
  simp only [Transaction.seedsFor?, hfind, Option.map_some]

/-- The payer's seed signs such a message. -/
theorem IsPaidBy.sign {m : Message} (h : m.IsPaidBy payer) {seed : Bytes}
    (hseed : keyOfSeed seed = payer) : Transaction.sign [seed] m = .ok (.signed seed m) := by
  obtain ⟨rest, hstatic⟩ := List.head?_eq_some_iff.1 h.first
  have hkeys : m.signerKeys = [payer] := by
    simp [signerKeys, hstatic, h.signers]
  have hcount : ¬ m.staticKeys.length < m.signers.toNat := by
    simp [hstatic, h.signers]
  have hfits : ¬ [payer].length < [seed].length ∧ ¬ [seed].length < [payer].length := by simp
  unfold Transaction.sign
  rw [if_neg hcount, hkeys, if_neg hfits.1, if_neg hfits.2, seedsFor?_sole hseed]
  rfl

end Message

/-! ## Swaps -/

namespace Swap

open Message (SignedBy)

variable {payer native mint : Key} {options : SwapOptions} {order : SwapOrder} {channel : Channel}

/-- One side of the pool is the native asset. -/
def HasNativeSide (keys : PoolKeys) : Prop :=
  keys.baseMint = Address.wrappedNative ∨ keys.quoteMint = Address.wrappedNative

theorem mint?_eq_none_iff {keys : PoolKeys} : keys.mint? = none ↔ ¬ HasNativeSide keys := by
  unfold PoolKeys.mint? HasNativeSide
  split
  · next hbase => simp [hbase]
  · next hbase => split <;> simp_all

theorem calls_eq_error (h : ¬ HasNativeSide order.keys) :
    calls payer native options order channel = .error (.pool .neitherMintIsNative) := by
  unfold calls
  rw [mint?_eq_none_iff.2 h]

theorem exists_calls (payer native : Key) (options : SwapOptions) (channel : Channel)
    (h : HasNativeSide order.keys) :
    ∃ cs, calls payer native options order channel = .ok cs := by
  cases hmint : order.keys.mint? with
  | none => exact absurd h (mint?_eq_none_iff.1 hmint)
  | some found =>
    obtain ⟨mint, nativeIsBase⟩ := found
    exact ⟨_, calls_eq hmint⟩

/-! ### Who signs -/

theorem signedBy_opening : SignedBy payer (opening payer mint order) := by
  unfold SignedBy opening
  split <;> split <;> split <;>
    simp [computeLimit, computePrice, openTokenAccount, AccountMeta.readonly, AccountMeta.writable]

theorem signedBy_traded : SignedBy payer [traded payer native mint order] := by
  unfold SignedBy traded swapBaseIn
  split <;> simp [AccountMeta.readonly, AccountMeta.writable]

theorem signedBy_closing : SignedBy payer (closing payer options channel) := by
  unfold SignedBy closing
  split
  · split <;> simp [relayTip, relayMemo, AccountMeta.writable]
  · simp

/-- The payer is the only account that a swap's calls have sign. -/
theorem signedBy_calls {cs : List Call}
    (h : calls payer native options order channel = .ok cs) : SignedBy payer cs := by
  obtain ⟨mint, nativeIsBase, hmint⟩ := mint_of_calls h
  rw [calls_eq hmint] at h
  obtain rfl := Except.ok.inj h
  intro c hc
  rcases List.mem_append.1 hc with hc | hc
  · exact signedBy_opening c hc
  rcases List.mem_cons.1 hc with rfl | hc
  · exact signedBy_traded _ (List.mem_singleton_self _)
  · exact signedBy_closing c hc

/-- The swap itself has the payer sign. -/
theorem signs_calls {cs : List Call} (h : calls payer native options order channel = .ok cs) :
    Message.Signs payer cs := by
  obtain ⟨mint, nativeIsBase, hmint⟩ := mint_of_calls h
  rw [calls_eq hmint] at h
  obtain rfl := Except.ok.inj h
  refine ⟨traded payer native mint order, by simp, .readonly payer true, ?_, rfl, rfl⟩
  simp [traded, swapBaseIn]

/-! ### How assembling ends -/

section Outcome

variable {blockhash : Key} {cs : List Call}

/-- An overrun table fails the message. -/
theorem message_eq_error (blockhash : Key)
    (hcalls : calls payer native options order channel = .ok cs)
    (h : Message.Overruns options.lookupTable cs) :
    message payer native options order channel blockhash = .error (.compile .tableIndexOverflow) := by
  obtain ⟨t, ht, hlarge⟩ := (Message.overruns_iff (signs_calls hcalls) _).1 h
  have htables : options.lookupTable.toList = [t] := by
    rw [Option.mem_def.1 ht]
    rfl
  unfold message
  rw [hcalls, htables]
  dsimp only
  rw [Message.compile_eq_error blockhash hlarge]

/-- Without one the message is compiled, and the payer alone has to sign it. -/
theorem exists_paid_message (blockhash : Key)
    (hcalls : calls payer native options order channel = .ok cs)
    (h : ¬ Message.Overruns options.lookupTable cs) :
    ∃ m, message payer native options order channel blockhash = .ok m ∧
      m.IsPaidBy payer ∧ m.blockhash = blockhash := by
  have htable : ∀ t ∈ options.lookupTable,
      Message.Addressable t.addresses (Message.uses payer cs) := by
    intro t ht
    by_contra hlarge
    exact h ((Message.overruns_iff (signs_calls hcalls) _).2 ⟨t, ht, hlarge⟩)
  obtain ⟨m, hm⟩ : ∃ m, message payer native options order channel blockhash = .ok m :=
    exists_message hcalls htable
  obtain ⟨cs', hcalls', hcompile⟩ := message_eq_ok hm
  obtain rfl : cs = cs' := Except.ok.inj (hcalls.symm.trans hcalls')
  exact ⟨m, hm, Message.isPaidBy_compile (signedBy_calls hcalls) hcompile⟩

theorem transaction_eq_error {seed : Bytes} {e : BuildError}
    (h : message (keyOfSeed seed) native options order channel blockhash = .error e) :
    transaction seed native options order channel blockhash = .error e := by
  unfold transaction
  rw [h]
  rfl

/-- A message that was compiled is signed, with or without a look at who has to sign it. -/
theorem exists_transaction {seed : Bytes} {m : Message}
    (hm : message (keyOfSeed seed) native options order channel blockhash = .ok m)
    (hpaid : m.IsPaidBy (keyOfSeed seed)) :
    ∃ tx, transaction seed native options order channel blockhash = .ok tx ∧
      Transaction.sign [seed] m = .ok tx ∧ tx.message = m.encode ∧
      Message.read? tx.message = some m ∧ tx.signatures = [Curve.sign seed tx.message] ∧
      tx.verify [keyOfSeed seed] = [decide (Curve.nonce seed tx.message ≠ 0)] ∧
      Transaction.decode? tx.encode = some tx := by
  refine ⟨.signed seed m, ?_, hpaid.sign rfl, rfl, read?_message hm, rfl,
    Transaction.verify_signed seed m, Transaction.decode?_signed seed m⟩
  unfold transaction
  rw [hm]
  rfl

end Outcome

/-- When assembling a swap fails, and what it gives otherwise.  It fails for
    want of a native mint if and only if neither mint is native; else if and
    only if the first place of a passive account in the table is no byte.
    Otherwise the payer alone has to sign the message, which carries the
    blockhash.  The bytes that are sent read back as one signature and this
    message.  The signature is that of the payer's seed and verifies under the
    payer's key, unless the nonce that the seed and the message hash to is
    zero.  Signing never fails, and there are never too many accounts. -/
theorem transaction_outcome (seed : Bytes) (native blockhash : Key) (options : SwapOptions)
    (order : SwapOrder) (channel : Channel) :
    (transaction seed native options order channel blockhash =
        .error (.pool .neitherMintIsNative) ↔ ¬ HasNativeSide order.keys) ∧
    (HasNativeSide order.keys →
      ∃ cs, calls (keyOfSeed seed) native options order channel = .ok cs ∧
        ((∃ e, transaction seed native options order channel blockhash = .error e) ↔
          Message.Overruns options.lookupTable cs) ∧
        (Message.Overruns options.lookupTable cs →
          transaction seed native options order channel blockhash =
            .error (.compile .tableIndexOverflow)) ∧
        (¬ Message.Overruns options.lookupTable cs →
          ∃ m tx, message (keyOfSeed seed) native options order channel blockhash = .ok m ∧
            transaction seed native options order channel blockhash = .ok tx ∧
            m.IsPaidBy (keyOfSeed seed) ∧ m.blockhash = blockhash ∧
            tx.message = m.encode ∧ Message.read? tx.message = some m ∧
            tx.signatures = [Curve.sign seed tx.message] ∧
            tx.verify [keyOfSeed seed] = [decide (Curve.nonce seed tx.message ≠ 0)] ∧
            Transaction.decode? tx.encode = some tx)) ∧
    (∀ m, message (keyOfSeed seed) native options order channel blockhash = .ok m →
      ∃ tx, Transaction.sign [seed] m = .ok tx ∧
        transaction seed native options order channel blockhash = .ok tx) ∧
    transaction seed native options order channel blockhash ≠
      .error (.compile .accountIndexOverflow) := by
  by_cases hnative : HasNativeSide order.keys
  · obtain ⟨cs, hcalls⟩ := exists_calls (keyOfSeed seed) native options channel hnative
    by_cases hover : Message.Overruns options.lookupTable cs
    · have hmessage := message_eq_error blockhash hcalls hover
      have herror := transaction_eq_error hmessage
      refine ⟨?_, fun _ => ⟨cs, hcalls, ?_, fun _ => herror, absurd hover⟩, ?_, ?_⟩
      · simp [herror, hnative]
      · simp [herror, hover]
      · intro m hm
        rw [hmessage] at hm
        cases hm
      · simp [herror]
    · obtain ⟨m, hm, hpaid, hblockhash⟩ := exists_paid_message blockhash hcalls hover
      obtain ⟨tx, htx, hsign, hsent⟩ := exists_transaction hm hpaid
      refine ⟨?_, fun _ => ⟨cs, hcalls, ?_, fun h => absurd h hover, fun _ => ?_⟩, ?_, ?_⟩
      · simp [htx, hnative]
      · simp [htx, hover]
      · exact ⟨m, tx, hm, htx, hpaid, hblockhash, hsent⟩
      · intro m' hm'
        obtain rfl : m = m' := Except.ok.inj (hm.symm.trans hm')
        exact ⟨tx, hsign, htx⟩
      · simp [htx]
  · have hmessage : message (keyOfSeed seed) native options order channel blockhash =
        .error (.pool .neitherMintIsNative) := by
      unfold message
      rw [calls_eq_error hnative]
    have herror := transaction_eq_error hmessage
    refine ⟨?_, fun h => absurd h hnative, ?_, ?_⟩
    · simp [herror, hnative]
    · intro m hm
      rw [hmessage] at hm
      cases hm
    · simp [herror]

end Swap

end PoolWatch
