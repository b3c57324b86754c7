import PoolWatch.Transaction.Wire

/-! # Signing

    A message names the keys that have to sign it before all others.  It is
    signed with one seed for each of them, in whatever order the seeds come;
    seeds that do not fit the keys are refused. -/

namespace PoolWatch

/-- The key that a seed signs for. -/
def keyOfSeed (seed : Bytes) : Key :=
  Key.ofWindow (Curve.publicKey seed) 0

/-- Why a message could not be signed. -/
inductive SignError where
  | missingKeys
  | tooManySigners
  | notEnoughSigners
  | otherKey
  deriving DecidableEq, Repr

/-- What is wrong, as a sentence. -/
def SignError.message : SignError → String
  | .missingKeys => "invalid input: invalid message"
  | .tooManySigners => "too many signers"
  | .notEnoughSigners => "not enough signers"
  | .otherKey => "keypair-pubkey mismatch"

/-- The keys that have to sign a message. -/
def Message.signerKeys (m : Message) : List Key :=
  m.staticKeys.take m.signers.toNat

namespace Transaction

/-- The seed of each key, among the given ones. -/
def seedsFor? (seeds : List Bytes) : List Key → Option (List Bytes)
  | [] => some []
  | key :: rest =>
    match seeds.find? fun seed => keyOfSeed seed = key with
    | none => none
    | some seed => (seedsFor? seeds rest).map (seed :: ·)

/-- Signs a message with the seeds of the keys that have to sign it. -/
def sign (seeds : List Bytes) (m : Message) : Except SignError Transaction :=
  if m.staticKeys.length < m.signers.toNat then .error .missingKeys
  else if m.signerKeys.length < seeds.length then .error .tooManySigners
  else if seeds.length < m.signerKeys.length then .error .notEnoughSigners
  else
    match seedsFor? seeds m.signerKeys with
    | none => .error .otherKey
    | some seeds => .ok ⟨seeds.map fun seed => Curve.sign seed m.encode, m.encode⟩

end Transaction

end PoolWatch
