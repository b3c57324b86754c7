/-! # Byte strings

    A byte string is a list of bytes.  This module holds the two ways the
    chain's records cut one up: little-endian integers of a fixed width, and
    windows of a fixed width that read zeros past the end of the data.

    The laws at the end say that a window always has the asked-for width,
    and that writing an integer and reading it back is the identity on
    integers that fit. -/

namespace PoolWatch

/-- A string of bytes. -/
abbrev Bytes := List UInt8

/-- A 128-bit word, for the counters that are wider than 64 bits. -/
abbrev Word128 := BitVec 128

/-- Little-endian value: the first byte counts for least. -/
def natOfLE : Bytes → Nat
  | [] => 0
  | b :: rest => b.toNat + 256 * natOfLE rest

/-- The `width` low bytes of a number, least significant first. -/
def leOfNat : Nat → Nat → Bytes
  | 0, _ => []
  | width + 1, n => UInt8.ofNat n :: leOfNat width (n / 256)

/-- Big-endian value: the first byte counts for most. -/
def natOfBE (bytes : Bytes) : Nat :=
  natOfLE bytes.reverse

/-- The `width` low bytes of a number, most significant first. -/
def beOfNat (width n : Nat) : Bytes :=
  (leOfNat width n).reverse

/-- The `width` bytes from offset `pos` on; bytes past the end read as zero. -/
def window (data : Bytes) (pos width : Nat) : Bytes :=
  let got := (data.drop pos).take width
  got ++ List.replicate (width - got.length) 0

/-- A 32-bit word at an offset, zeros past the end. -/
def word32At (data : Bytes) (pos : Nat) : UInt32 :=
  UInt32.ofNat (natOfLE (window data pos 4))

/-- A 64-bit word at an offset, zeros past the end. -/
def word64At (data : Bytes) (pos : Nat) : UInt64 :=
  UInt64.ofNat (natOfLE (window data pos 8))

/-- A signed 64-bit word at an offset, zeros past the end. -/
def signed64At (data : Bytes) (pos : Nat) : Int64 :=
  (word64At data pos).toInt64

/-- A 128-bit word at an offset, zeros past the end. -/
def word128At (data : Bytes) (pos : Nat) : Word128 :=
  BitVec.ofNat 128 (natOfLE (window data pos 16))

/-- The eight bytes of a 64-bit word. -/
def leOfWord64 (w : UInt64) : Bytes :=
  leOfNat 8 w.toNat

/-- The four bytes of a 32-bit word. -/
def leOfWord32 (w : UInt32) : Bytes :=
  leOfNat 4 w.toNat

/-- The sixteen bytes of a 128-bit word. -/
def leOfWord128 (w : Word128) : Bytes :=
  leOfNat 16 w.toNat

/-! ## Laws -/

@[simp] theorem length_leOfNat (width n : Nat) : (leOfNat width n).length = width := by
  induction width generalizing n with
  | zero => rfl
  | succ w ih => simp [leOfNat, ih]

@[simp] theorem length_window (data : Bytes) (pos width : Nat) :
    (window data pos width).length = width := by
  simp only [window, List.length_append, List.length_replicate, List.length_take,
    List.length_drop]
  omega

/-- How many numbers some bytes can hold. -/
def span : Nat → Nat
  | 0 => 1
  | width + 1 => 256 * span width

theorem span_four : span 4 = 0x100000000 := rfl

theorem span_eight : span 8 = 0x10000000000000000 := rfl

theorem span_sixteen : span 16 = 0x100000000000000000000000000000000 := rfl

/-- Reading a written number gives it back, less what does not fit the width. -/
theorem natOfLE_leOfNat (width n : Nat) : natOfLE (leOfNat width n) = n % span width := by
  induction width generalizing n with
  | zero => simp [leOfNat, natOfLE, span, Nat.mod_one]
  | succ w ih =>
    have hb : (UInt8.ofNat n).toNat = n % 256 := by simp
    rw [leOfNat, natOfLE, ih, hb, span, Nat.mod_mul]

theorem natOfLE_lt (bytes : Bytes) : natOfLE bytes < span bytes.length := by
  induction bytes with
  | nil => simp [natOfLE, span]
  | cons b rest ih =>
    have hb := b.toNat_lt
    simp only [natOfLE, List.length_cons, span]
    omega

/-- Writing a read number gives the bytes back. -/
theorem leOfNat_natOfLE (bytes : Bytes) : leOfNat bytes.length (natOfLE bytes) = bytes := by
  induction bytes with
  | nil => rfl
  | cons b rest ih =>
    have hb := b.toNat_lt
    have hdiv : natOfLE (b :: rest) / 256 = natOfLE rest := by
      simp only [natOfLE]; omega
    have hmod : UInt8.ofNat (natOfLE (b :: rest)) = b := by
      apply UInt8.toNat_inj.1
      simp only [natOfLE, UInt8.toNat_ofNat']
      omega
    rw [List.length_cons, leOfNat, hdiv, ih, hmod]

end PoolWatch
