import PoolWatch.Bytes
import PoolWatch.Text.Base58

/-! # Keys

    Accounts, programs and block hashes are named by 32 bytes, and written
    in base 58.  Keys are ordered by their bytes. -/

namespace PoolWatch

/-- A name of 32 bytes. -/
structure Key where
  bytes : Bytes
  size : bytes.length = 32
  deriving DecidableEq

/-- Why a text is no key. -/
inductive KeyFault where
  | wrongSize
  | badCharacter
  deriving DecidableEq, Repr

/-- What is wrong, as a sentence. -/
def KeyFault.message : KeyFault → String
  | .wrongSize => "String is the wrong size"
  | .badCharacter => "Invalid Base58 string"

namespace Key

theorem ext_bytes {k l : Key} (h : k.bytes = l.bytes) : k = l := by
  cases k; cases l; simp_all

/-- The key whose bytes write a number, most significant first. -/
def ofNat (n : Nat) : Key :=
  ⟨beOfNat 32 n, by simp [beOfNat]⟩

/-- The key of exactly 32 bytes. -/
def ofBytes? (bytes : Bytes) : Option Key :=
  if h : bytes.length = 32 then some ⟨bytes, h⟩ else none

/-- The 32 bytes at an offset, zeros past the end. -/
def ofWindow (data : Bytes) (pos : Nat) : Key :=
  ⟨window data pos 32, length_window data pos 32⟩

/-- 32 zero bytes. -/
def zero : Key := ofNat 0

instance : Inhabited Key := ⟨zero⟩

/-- The text of a key. -/
def text (k : Key) : String :=
  Text.Base58.encode k.bytes

instance : Repr Key := ⟨fun k _ => k.text⟩

/-- The longest text of a key. -/
def maxTextLength : Nat := 44

/-- The key a text writes.  A text of more than 44 bytes is the wrong size
    before its characters are looked at. -/
def parse (s : String) : Except KeyFault Key :=
  if maxTextLength < s.utf8ByteSize then .error .wrongSize
  else
    match Text.Base58.decode? s with
    | none => .error .badCharacter
    | some bytes =>
      match ofBytes? bytes with
      | some k => .ok k
      | none => .error .wrongSize

/-- The key a text writes. -/
def parse? (s : String) : Option Key :=
  (parse s).toOption

/-- Byte order on lists of bytes. -/
def bytesBefore : Bytes → Bytes → Bool
  | [], [] => false
  | [], _ :: _ => true
  | _ :: _, [] => false
  | a :: as, b :: bs => a < b || (a == b && bytesBefore as bs)

/-- Strictly smaller in byte order. -/
def before (k l : Key) : Bool :=
  bytesBefore k.bytes l.bytes

end Key

end PoolWatch
