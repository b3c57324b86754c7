import PoolWatch.Instruction

/-! # Address lookup tables

    A table account holds a head of 56 bytes and then the addresses, 32
    bytes each.  The head says when the table was closed and last extended
    and who may extend it; without such an authority part of the head is
    unused. -/

namespace PoolWatch.Account

/-- The content of a lookup table. -/
structure LookupTable where
  deactivationSlot : UInt64
  lastExtendedSlot : UInt64
  lastExtendedStart : UInt8
  authority : Option Key
  addresses : List Key
  deriving DecidableEq

namespace LookupTable

/-- Bytes in front of the addresses. -/
def headSize : Nat := 56

/-- A table that was never closed and has no authority. -/
def ofAddresses (addresses : List Key) : LookupTable :=
  ⟨0xffffffffffffffff, 0, 0, none, addresses⟩

/-- The authority after its tag byte; some other tag is no head. -/
def authorityOf? (head : Bytes) : Option (Option Key) :=
  match head.drop 21 with
  | 0 :: _ => some none
  | 1 :: rest => some (some (Key.ofWindow rest 0))
  | _ => none

/-- The addresses of `count` times 32 bytes. -/
def addressesOf : Nat → Bytes → List Key
  | 0, _ => []
  | count + 1, data => Key.ofWindow data 0 :: addressesOf count (data.drop 32)

/-- Reads the data of a table account.  A kind word of zero is an account
    that was never set up; anything else that is no table is invalid. -/
def decode (data : Bytes) : Except DecodeError LookupTable :=
  let kind := word32At data 0
  let tail := data.drop headSize
  if data.length < 4 then .error .tableInvalid
  else if kind = 0 then .error .tableUninitialized
  else if kind ≠ 1 ∨ data.length < headSize ∨ tail.length % 32 ≠ 0 then .error .tableInvalid
  else
    match authorityOf? data with
    | none => .error .tableInvalid
    | some authority =>
      .ok ⟨word64At data 4, word64At data 12, (window data 20 1).headD 0, authority,
        addressesOf (tail.length / 32) tail⟩

/-- The head without the bytes that fill it up. -/
def head (t : LookupTable) : Bytes :=
  leOfWord32 1 ++ leOfWord64 t.deactivationSlot ++ leOfWord64 t.lastExtendedSlot ++
    t.lastExtendedStart ::
    (match t.authority with
    | some k => 1 :: k.bytes
    | none => [0])

/-- The account data of a table: its head filled up with zeros, and its
    addresses. -/
def encode (t : LookupTable) : Bytes :=
  t.head ++ List.replicate (headSize - t.head.length) 0 ++ t.addresses.flatMap Key.bytes

end LookupTable

end PoolWatch.Account
