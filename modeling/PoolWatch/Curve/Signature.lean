import PoolWatch.Curve.Point
import PoolWatch.Hash.Sha512

/-! # Signatures

    Deterministic signatures on the curve.  A 32-byte seed is hashed into a
    secret factor and a nonce key; the public key is the factor's multiple of
    the generator, and a signature is a commitment followed by the response
    to the hash of commitment, key and message. -/

namespace PoolWatch.Curve

/-- The order of the generator, a prime a little above `2 ^ 252`. -/
def order : Nat :=
  7237005577332262213973186563042994240857116359379907606001950938285454250989

/-- The weight of the second highest bit of 32 bytes. -/
def topBit : Nat := 0x4000000000000000000000000000000000000000000000000000000000000000

/-- The secret factor: the low half of the seed's digest, its low three bits
    cleared and its second highest bit set. -/
def secretFactor (seed : Bytes) : Nat :=
  let n := natOfLE ((Hash.Sha512.digest seed).take 32)
  n % topBit / 8 * 8 + topBit

/-- The public key of a seed. -/
def publicKey (seed : Bytes) : Bytes :=
  (Point.generator.mul (secretFactor seed)).encode

/-- A digest as a factor. -/
def factorOf (data : Bytes) : Nat :=
  natOfLE (Hash.Sha512.digest data) % order

/-- The nonce of a signature, from the high half of the seed's digest. -/
def nonce (seed message : Bytes) : Nat :=
  factorOf ((Hash.Sha512.digest seed).drop 32 ++ message)

/-- The signature of a message under a seed. -/
def sign (seed message : Bytes) : Bytes :=
  let k := nonce seed message
  let commitment := (Point.generator.mul k).encode
  let challenge := factorOf (commitment ++ publicKey seed ++ message)
  commitment ++ leOfNat 32 ((k + challenge * secretFactor seed) % order)

/-- A point whose eightfold is neutral. -/
def isSmallOrder (p : Point) : Bool :=
  (p.mul 8).same .zero

/-- Checks a signature: canonical response, no small-order point, and the
    equation between commitment, key and response. -/
def verify (key message signature : Bytes) : Bool :=
  let commitment := signature.take 32
  let response := natOfLE (signature.drop 32)
  (Point.decode? key).any fun a =>
    (Point.decode? commitment).any fun r =>
      let challenge := factorOf (commitment ++ key ++ message)
      signature.length == 64 && decide (response < order) && !isSmallOrder a && !isSmallOrder r &&
        (Point.generator.mul response).same (r.add (a.mul challenge))

end PoolWatch.Curve
