import PoolWatch.Address
import PoolWatch.Curve.Point
import PoolWatch.Hash.Sha256

/-! # Derived addresses

    A program owns addresses that no seed signs for: digests of its seeds
    and its own key that are no point of the signature curve.  Adding one
    more seed byte, from 255 down, finds one for any seeds. -/

namespace PoolWatch.Derived

/-- The text mixed into every derived address. -/
def marker : Bytes := "ProgramDerivedAddress".toUTF8.toList

/-- The most seeds, and the most bytes in each. -/
def maxSeeds : Nat := 16

/-- The most bytes in a seed. -/
def maxSeedLength : Nat := 32

/-- The address of some seeds under a program; nothing when the digest is a
    point of the curve or the seeds are too many or too long. -/
def address? (seeds : List Bytes) (program : Key) : Option Key :=
  if maxSeeds < seeds.length || seeds.any fun s => maxSeedLength < s.length then none
  else
    let digest := Hash.Sha256.digest (seeds.flatten ++ program.bytes ++ marker)
    if Curve.isPoint digest then none else Key.ofBytes? digest

/-- The first address found with one of the last bytes `bump`, …, 2, 1. -/
def search (seeds : List Bytes) (program : Key) : Nat → Option Key
  | 0 => none
  | bump + 1 =>
    (address? (seeds ++ [[UInt8.ofNat (bump + 1)]]) program).or (search seeds program bump)

/-- The address of some seeds with the highest last byte that has one. -/
def find? (seeds : List Bytes) (program : Key) : Option Key :=
  search seeds program 255

/-- The authority over the vaults of the watched program. -/
def venueAuthority : Key :=
  (find? [Address.authoritySeed] Address.venueProgram).getD Address.vaultAuthority

/-- The vault signer of an order-book market, whose nonce is part of its
    record; nothing when the nonce gives no address. -/
def marketAuthority? (program market : Key) (nonce : UInt64) : Option Key :=
  address? [market.bytes, leOfWord64 nonce] program

/-- A wallet's account for a token. -/
def tokenAccount (wallet mint : Key) : Key :=
  (find? [wallet.bytes, Address.tokenProgram.bytes, mint.bytes]
    Address.tokenAccountProgram).getD .zero

end PoolWatch.Derived
