import PoolWatch.Instruction

/-! # Fixed-width records

    A codec writes values of a type in a fixed number of bytes, and reads
    any string of that many bytes as a value.  The two directions are
    inverse, and stay so when records are put side by side.

    An account is read by its first bytes: as many as the record is wide.
    Longer data is cut, shorter data is refused, and the wrong kind of
    account reads as garbage. -/

namespace PoolWatch.Account

/-- A byte string of known length. -/
abbrev FixedBytes (n : Nat) := { bytes : Bytes // bytes.length = n }

/-- A bijection between a type and the byte strings of one length. -/
structure Codec (α : Type) where
  width : Nat
  encode : α → Bytes
  decode : Bytes → α
  length_encode : ∀ a, (encode a).length = width
  decode_encode : ∀ a, decode (encode a) = a
  encode_decode : ∀ bytes, bytes.length = width → encode (decode bytes) = bytes

namespace Codec

/-- A 64-bit word. -/
def word : Codec UInt64 where
  width := 8
  encode := leOfWord64
  decode bytes := UInt64.ofNat (natOfLE bytes)
  length_encode _ := length_leOfNat 8 _
  decode_encode w := by
    have h := w.toNat_lt
    have hs := span_eight
    rw [leOfWord64, natOfLE_leOfNat, Nat.mod_eq_of_lt (by omega), UInt64.ofNat_toNat]
  encode_decode bytes h := by
    have hlt := natOfLE_lt bytes
    rw [h, span_eight] at hlt
    have hn : (UInt64.ofNat (natOfLE bytes)).toNat = natOfLE bytes := by
      rw [UInt64.toNat_ofNat']
      exact Nat.mod_eq_of_lt (by omega)
    rw [leOfWord64, hn]
    simpa [h] using leOfNat_natOfLE bytes

/-- A 128-bit word. -/
def wide : Codec Word128 where
  width := 16
  encode := leOfWord128
  decode bytes := BitVec.ofNat 128 (natOfLE bytes)
  length_encode _ := length_leOfNat 16 _
  decode_encode w := by
    have h := w.isLt
    have hs := span_sixteen
    rw [leOfWord128, natOfLE_leOfNat, Nat.mod_eq_of_lt (by omega)]
    simp
  encode_decode bytes h := by
    have hlt := natOfLE_lt bytes
    rw [h, span_sixteen] at hlt
    rw [leOfWord128, BitVec.toNat_ofNat, Nat.mod_eq_of_lt (by omega)]
    simpa [h] using leOfNat_natOfLE bytes

/-- A key. -/
def key : Codec Key where
  width := 32
  encode k := k.bytes
  decode bytes := Key.ofWindow bytes 0
  length_encode k := k.size
  decode_encode k := by
    apply Key.ext_bytes
    have h := k.size
    simp [Key.ofWindow, window, List.take_of_length_le, h]
  encode_decode bytes h := by
    simp [Key.ofWindow, window, List.take_of_length_le, h]

/-- Bytes that stand for nothing more. -/
def raw (n : Nat) : Codec (FixedBytes n) where
  width := n
  encode b := b.1
  decode bytes := ⟨window bytes 0 n, length_window bytes 0 n⟩
  length_encode b := b.2
  decode_encode b := by
    apply Subtype.ext
    simp [window, List.take_of_length_le, b.2]
  encode_decode bytes h := by
    simp [window, List.take_of_length_le, h]

/-- One record after another. -/
def pair {α β : Type} (a : Codec α) (b : Codec β) : Codec (α × β) where
  width := a.width + b.width
  encode p := a.encode p.1 ++ b.encode p.2
  decode bytes := (a.decode (bytes.take a.width), b.decode (bytes.drop a.width))
  length_encode p := by rw [List.length_append, a.length_encode, b.length_encode]
  decode_encode p := by
    have h := a.length_encode p.1
    rw [← h, List.take_left, List.drop_left, a.decode_encode, b.decode_encode]
  encode_decode bytes h := by
    rw [a.encode_decode _ (by simp; omega), b.encode_decode _ (by simp; omega),
      List.take_append_drop]

/-- The same bytes read as another type. -/
def map {α β : Type} (a : Codec α) (f : α → β) (g : β → α) (fg : ∀ b, f (g b) = b)
    (gf : ∀ x, g (f x) = x) : Codec β where
  width := a.width
  encode b := a.encode (g b)
  decode bytes := f (a.decode bytes)
  length_encode b := a.length_encode (g b)
  decode_encode b := by rw [a.decode_encode, fg]
  encode_decode bytes h := by rw [gf, a.encode_decode bytes h]

end Codec

/-! ## Accounts -/

/-- Reads the record at the front of an account's data. -/
def decode {α : Type} (codec : Codec α) (data : Bytes) : Except DecodeError α :=
  if data.length < codec.width then .error (.accountTooShort codec.width data.length)
  else .ok (codec.decode (data.take codec.width))

end PoolWatch.Account
