import PoolWatch.Account.Market
import PoolWatch.Account.Pool

/-! # Records and their bytes

    A record is laid out field by field: a list of widths, and for each value
    the bytes that stand in each field.  `Layout.IsExact` says that reading an
    account is the inverse of writing the fields one after another, on the
    first bytes of any data, and that nothing else is ever refused than data
    that is too short.  `layouts_exact` states it of both kinds of account,
    with the fields in the order of their records. -/

namespace PoolWatch.Account

/-! ## Fields -/

/-- The fields of a record: how wide each is, and the bytes in it. -/
structure Layout (α : Type) where
  widths : List Nat
  fields : α → List Bytes

/-- The bytes of a record. -/
def Layout.width {α : Type} (layout : Layout α) : Nat :=
  layout.widths.foldr (· + ·) 0

/-- Cuts pieces of the given widths off the front of some data; nothing when
    the data runs out on the way.  What follows the last piece is left over. -/
def cut? : List Nat → Bytes → Option (List Bytes × Bytes)
  | [], data => some ([], data)
  | width :: widths, data =>
    if data.length < width then none
    else do
      let (pieces, rest) ← cut? widths (data.drop width)
      pure (data.take width :: pieces, rest)

/-- Pieces that were put one after another are cut apart again. -/
theorem cut?_flatten (pieces : List Bytes) (rest : Bytes) :
    cut? (pieces.map List.length) (pieces.flatten ++ rest) = some (pieces, rest) := by
  induction pieces with
  | nil => rfl
  | cons piece pieces ih =>
    have hlong : ¬ (piece ++ (pieces.flatten ++ rest)).length < piece.length := by
      rw [List.length_append]
      omega
    rw [List.map_cons, List.flatten_cons, List.append_assoc, cut?, if_neg hlong, List.drop_left,
      ih, List.take_left]
    rfl

/-- Reading takes a record of this layout off the front of an account. -/
structure Layout.IsExact {α : Type} (layout : Layout α) (codec : Codec α) : Prop where
  /-- A record is written field by field. -/
  encode_eq : ∀ a, codec.encode a = (layout.fields a).flatten
  /-- Short data is refused, and told by what is needed and what is there;
      nothing else is refused. -/
  refused_iff : ∀ data e, decode codec data = .error e ↔
    data.length < layout.width ∧ e = .accountTooShort layout.width data.length
  /-- To go through the fields one by one uses all bytes of the record and
      never runs out of them, and it finds what was read. -/
  cut_of_read : ∀ data a, decode codec data = .ok a →
    cut? layout.widths (data.take layout.width) = some (layout.fields a, [])
  /-- What was read is written as it stood there. -/
  encode_of_read : ∀ data a, decode codec data = .ok a →
    codec.encode a = data.take layout.width
  /-- Only the bytes of the record count. -/
  decode_congr : ∀ data data', layout.width ≤ data.length →
    data'.take layout.width = data.take layout.width → decode codec data' = decode codec data
  /-- A record is read as it was written, whatever follows it. -/
  decode_written : ∀ a tail, decode codec (codec.encode a ++ tail) = .ok a

/-! ## Reading the front of an account -/

section Reading

variable {α : Type} (codec : Codec α)

theorem decode_eq_error_iff (data : Bytes) (e : DecodeError) :
    decode codec data = .error e ↔
      data.length < codec.width ∧ e = .accountTooShort codec.width data.length := by
  unfold decode
  by_cases hshort : data.length < codec.width
  · rw [if_pos hshort]
    constructor
    · intro h
      exact ⟨hshort, (Except.error.inj h).symm⟩
    · rintro ⟨-, rfl⟩
      rfl
  · rw [if_neg hshort]
    constructor
    · intro h
      cases h
    · rintro ⟨h, -⟩
      exact absurd h hshort

theorem decode_eq_ok_iff (data : Bytes) (a : α) :
    decode codec data = .ok a ↔
      codec.width ≤ data.length ∧ codec.decode (data.take codec.width) = a := by
  unfold decode
  by_cases hshort : data.length < codec.width
  · rw [if_pos hshort]
    constructor
    · intro h
      cases h
    · rintro ⟨hlong, -⟩
      omega
  · rw [if_neg hshort]
    constructor
    · intro h
      exact ⟨Nat.le_of_not_lt hshort, Except.ok.inj h⟩
    · rintro ⟨-, rfl⟩
      rfl

/-- What was read is written as it stood there. -/
theorem encode_of_decode {data : Bytes} {a : α} (h : decode codec data = .ok a) :
    codec.encode a = data.take codec.width := by
  obtain ⟨hlong, rfl⟩ := (decode_eq_ok_iff codec data a).1 h
  have hlength : (data.take codec.width).length = codec.width := by
    rw [List.length_take]
    omega
  exact codec.encode_decode _ hlength

/-- A record is read as it was written, whatever follows it. -/
theorem decode_encode_append (a : α) (tail : Bytes) :
    decode codec (codec.encode a ++ tail) = .ok a := by
  have hlength : (codec.encode a).length = codec.width := codec.length_encode a
  rw [decode_eq_ok_iff]
  constructor
  · rw [List.length_append]
    omega
  · rw [← hlength, List.take_left, codec.decode_encode]

/-- A codec that writes a record field by field, each field in its width, is exact. -/
theorem Layout.isExact_of_fields {layout : Layout α}
    (hwidths : ∀ a, (layout.fields a).map List.length = layout.widths)
    (hencode : ∀ a, codec.encode a = (layout.fields a).flatten)
    (hwidth : codec.width = layout.width) : layout.IsExact codec where
  encode_eq := hencode
  refused_iff data e := hwidth ▸ decode_eq_error_iff codec data e
  cut_of_read data a h := by
    have hfront : data.take layout.width = (layout.fields a).flatten ++ [] := by
      rw [List.append_nil, ← hencode, encode_of_decode codec h, hwidth]
    rw [hfront, ← hwidths a]
    exact cut?_flatten (layout.fields a) []
  encode_of_read data a h := hwidth ▸ encode_of_decode codec h
  decode_congr data data' hlong hsame := by
    have hlong' : layout.width ≤ data'.length := by
      have hlength := congrArg List.length hsame
      rw [List.length_take, List.length_take] at hlength
      omega
    rw [(decode_eq_ok_iff codec data' _).2 ⟨hwidth ▸ hlong', rfl⟩,
      (decode_eq_ok_iff codec data _).2 ⟨hwidth ▸ hlong, rfl⟩, hwidth, hsame]
  decode_written := decode_encode_append codec

end Reading

/-! ## Writing a record -/

namespace Codec

variable {α β : Type}

@[simp] theorem encode_word (w : UInt64) : word.encode w = leOfWord64 w := rfl

@[simp] theorem encode_wide (w : Word128) : wide.encode w = leOfWord128 w := rfl

@[simp] theorem encode_key (k : Key) : key.encode k = k.bytes := rfl

@[simp] theorem encode_raw {n : Nat} (bytes : FixedBytes n) : (raw n).encode bytes = bytes.1 := rfl

@[simp] theorem encode_pair (a : Codec α) (b : Codec β) (p : α × β) :
    (a.pair b).encode p = a.encode p.1 ++ b.encode p.2 := rfl

theorem encode_map (a : Codec α) {f : α → β} {g : β → α} (fg : ∀ b, f (g b) = b)
    (gf : ∀ x, g (f x) = x) (b : β) : (a.map f g fg gf).encode b = a.encode (g b) := rfl

end Codec

/-! ## Pools -/

/-- The record of a pool: 32 words, four wide counters with a word after each
    two, 12 keys, and four words. -/
def PoolState.layout : Layout PoolState where
  widths := List.replicate 32 8 ++ [16, 16, 8, 16, 16, 8] ++ List.replicate 12 32 ++
    List.replicate 4 8
  fields s :=
    [s.status, s.nonce, s.maxOrder, s.depth, s.baseDecimals, s.quoteDecimals, s.state,
      s.resetFlag, s.minSize, s.volumeMaxCutRatio, s.amountWaveRatio, s.baseLotSize,
      s.quoteLotSize, s.minPriceMultiplier, s.maxPriceMultiplier, s.systemDecimals,
      s.minSeparateNumerator, s.minSeparateDenominator, s.tradeFeeNumerator,
      s.tradeFeeDenominator, s.profitNumerator, s.profitDenominator, s.swapFeeNumerator,
      s.swapFeeDenominator, s.baseProfitDue, s.quoteProfitDue, s.quoteProfitTotal,
      s.baseProfitTotal, s.openTime, s.punishQuoteAmount, s.punishBaseAmount,
      s.orderBookInitTime].map leOfWord64 ++
    [leOfWord128 s.swapBaseIn, leOfWord128 s.swapQuoteOut, leOfWord64 s.swapBaseToQuoteFee,
      leOfWord128 s.swapQuoteIn, leOfWord128 s.swapBaseOut, leOfWord64 s.swapQuoteToBaseFee] ++
    [s.baseVault, s.quoteVault, s.baseMint, s.quoteMint, s.lpMint, s.openOrders, s.marketId,
      s.marketProgram, s.targetOrders, s.withdrawQueue, s.lpVault, s.owner].map Key.bytes ++
    [s.lpReserve, s.padding.1, s.padding.2.1, s.padding.2.2].map leOfWord64

theorem PoolState.length_fields (s : PoolState) :
    (layout.fields s).map List.length = layout.widths := by
  simp only [layout, List.map_append, List.map_cons, List.map_nil, leOfWord64, leOfWord128,
    length_leOfNat, Key.size]
  rfl

theorem PoolState.encode_eq_fields (s : PoolState) :
    codec.encode s = (layout.fields s).flatten := by
  -- to rewrite would not do: that the tuple is undone holds by unfolding it
  refine (Codec.encode_map _ _ _ s).trans ?_
  simp only [Codec.encode_pair, Codec.encode_word, Codec.encode_wide, Codec.encode_key, tuple,
    layout, List.map_cons, List.map_nil, List.cons_append, List.nil_append, List.flatten_cons,
    List.flatten_nil, List.append_nil]

/-! ## Markets -/

/-- The record of a market, between its paddings of five and seven bytes. -/
def MarketState.layout : Layout MarketState where
  widths := [5, 8, 32, 8, 32, 32, 32, 8, 8, 32, 8, 8, 8, 32, 32, 32, 32, 8, 8, 8, 8, 7]
  fields s :=
    [s.headPadding.1, s.accountFlags.1, s.ownAddress.bytes, leOfWord64 s.vaultSignerNonce,
      s.baseMint.bytes, s.quoteMint.bytes, s.baseVault.bytes, leOfWord64 s.baseDeposits,
      leOfWord64 s.baseFees, s.quoteVault.bytes, leOfWord64 s.quoteDeposits,
      leOfWord64 s.quoteFees, leOfWord64 s.quoteDustThreshold, s.requestQueue.bytes,
      s.eventQueue.bytes, s.bids.bytes, s.asks.bytes, leOfWord64 s.baseLotSize,
      leOfWord64 s.quoteLotSize, leOfWord64 s.feeRateBps, leOfWord64 s.referrerRebates,
      s.tailPadding.1]

theorem MarketState.length_fields (s : MarketState) :
    (layout.fields s).map List.length = layout.widths := by
  simp only [layout, List.map_cons, List.map_nil, leOfWord64, length_leOfNat, Key.size,
    s.headPadding.2, s.accountFlags.2, s.tailPadding.2]

theorem MarketState.encode_eq_fields (s : MarketState) :
    codec.encode s = (layout.fields s).flatten := by
  refine (Codec.encode_map _ _ _ s).trans ?_
  simp only [Codec.encode_pair, Codec.encode_word, Codec.encode_key, Codec.encode_raw, tuple,
    layout, List.flatten_cons, List.flatten_nil, List.append_nil]

/-! ## Both kinds of account -/

/-- The records of pools and markets take 752 and 388 bytes, and reading an
    account is the inverse of writing its record: it refuses exactly the data
    that is shorter, by its need and its length; it finds in each field what
    stands there; what it read is written back byte by byte; and what stands
    behind the record makes no difference. -/
theorem layouts_exact :
    PoolState.layout.width = 752 ∧ PoolState.layout.IsExact PoolState.codec ∧
      MarketState.layout.width = 388 ∧ MarketState.layout.IsExact MarketState.codec := by
  have hpool : PoolState.codec.width = PoolState.layout.width := rfl
  have hmarket : MarketState.codec.width = MarketState.layout.width := rfl
  refine ⟨rfl, ?_, rfl, ?_⟩
  · exact Layout.isExact_of_fields PoolState.codec PoolState.length_fields
      PoolState.encode_eq_fields hpool
  · exact Layout.isExact_of_fields MarketState.codec MarketState.length_fields
      MarketState.encode_eq_fields hmarket

end PoolWatch.Account
