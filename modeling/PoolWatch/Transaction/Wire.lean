import PoolWatch.Transaction.Message
import PoolWatch.Curve.Signature

/-! # Transactions on the wire

    Lists are written after their length in groups of seven bits.  A message
    starts with its version; a transaction is its signatures followed by the
    message that they sign. -/

namespace PoolWatch

/-- A length in groups of seven bits, the lowest first; at most three. -/
def compactLength : Nat → Nat → Bytes
  | 0, _ => []
  | groups + 1, n =>
    if n < 128 then [UInt8.ofNat n]
    else UInt8.ofNat (n % 128 + 128) :: compactLength groups (n / 128)

/-- A list after its length. -/
def compactList (items : List Bytes) : Bytes :=
  compactLength 3 items.length ++ items.flatten

/-- Bytes after their length. -/
def compactBytes (bytes : Bytes) : Bytes :=
  compactLength 3 bytes.length ++ bytes

namespace Message

/-- The first byte of a message: the version mark over version zero. -/
def versionByte : UInt8 := 0x80

/-- The bytes of an instruction. -/
def encodeInstruction (ix : CompiledInstruction) : Bytes :=
  ix.programIndex :: compactBytes ix.accounts ++ compactBytes ix.data

/-- The bytes of the use of a table. -/
def encodeLookup (l : TableLookup) : Bytes :=
  l.table.bytes ++ compactBytes l.writable ++ compactBytes l.readonly

/-- The bytes of a message, which are what is signed. -/
def encode (m : Message) : Bytes :=
  [versionByte, m.signers, m.readonlySigners, m.readonlyOthers] ++
    compactList (m.staticKeys.map Key.bytes) ++ m.blockhash.bytes ++
    compactList (m.instructions.map encodeInstruction) ++
    compactList (m.lookups.map encodeLookup)

/-- The message read back as an executed transaction. -/
def toEnvelope (m : Message) (signature : String) : Envelope :=
  { Envelope.empty with
    signature
    accountKeys := m.staticKeys
    recentBlockhash := m.blockhash
    instructions := m.instructions
    tableLookups := m.lookups }

end Message

/-- A message as bytes, with its signatures. -/
structure Transaction where
  signatures : List Bytes
  message : Bytes
  deriving DecidableEq

namespace Transaction

/-- The bytes of a transaction. -/
def encode (t : Transaction) : Bytes :=
  compactList t.signatures ++ t.message

/-- A length at the front of some bytes, and what follows it. -/
def readLength : Nat → Bytes → Option (Nat × Bytes)
  | 0, _ => none
  | _, [] => none
  | groups + 1, b :: rest =>
    if b < 128 then some (b.toNat, rest)
    else do
      let (high, rest) ← readLength groups rest
      pure (b.toNat - 128 + 128 * high, rest)

/-- `count` signatures of 64 bytes, and what follows them. -/
def readSignatures : Nat → Bytes → Option (List Bytes × Bytes)
  | 0, rest => some ([], rest)
  | count + 1, data =>
    if data.length < 64 then none
    else do
      let (more, rest) ← readSignatures count (data.drop 64)
      pure (data.take 64 :: more, rest)

/-- The transaction that some bytes write. -/
def decode? (data : Bytes) : Option Transaction := do
  let (count, rest) ← readLength 3 data
  let (signatures, message) ← readSignatures count rest
  pure ⟨signatures, message⟩

/-- The text of the first signature, by which the transaction is known. -/
def signatureText (t : Transaction) : String :=
  (t.signatures.head?.map Text.Base58.encode).getD ""

/-- Signs a message with the seed of the one key that pays for it. -/
def signed (seed : Bytes) (m : Message) : Transaction :=
  ⟨[Curve.sign seed m.encode], m.encode⟩

/-- Checks each signature against the key of the same number. -/
def verify (t : Transaction) (keys : List Key) : List Bool :=
  List.zipWith (fun (s : Bytes) (k : Key) => Curve.verify k.bytes t.message s) t.signatures keys

end Transaction

end PoolWatch
