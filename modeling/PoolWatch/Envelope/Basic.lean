import PoolWatch.Address
import PoolWatch.Text.Decimal

/-! # Envelopes

    An envelope is one executed transaction as the feed delivers it: the
    keys and instructions of the message, the token balances around it, and
    how it ended. -/

namespace PoolWatch

/-- An instruction of a compiled message: accounts are indexes of the message. -/
structure CompiledInstruction where
  programIndex : UInt8
  accounts : List UInt8
  data : Bytes
  deriving DecidableEq

/-- Instructions that an instruction caused. -/
structure InnerInstructions where
  index : UInt8
  instructions : List CompiledInstruction
  deriving DecidableEq

/-- The entries of a lookup table that a message uses. -/
structure TableLookup where
  table : Key
  writable : List UInt8
  readonly : List UInt8
  deriving DecidableEq

/-- What a token account held; the amount is kept as its decimal text. -/
structure TokenBalance where
  accountIndex : UInt8
  mint : Key
  owner : Option Key
  amount : String
  deriving DecidableEq

/-- One executed transaction. -/
structure Envelope where
  source : String
  signature : String
  accountKeys : List Key
  recentBlockhash : Key
  instructions : List CompiledInstruction
  innerInstructions : List InnerInstructions
  tableLookups : List TableLookup
  preBalances : List TokenBalance
  postBalances : List TokenBalance
  computeUnits : UInt64
  slot : UInt64
  error : Option String
  deriving DecidableEq

namespace Envelope

/-- An envelope with nothing in it. -/
def empty : Envelope :=
  ⟨"", "", [], .zero, [], [], [], [], [], 0, 0, none⟩

/-- Whether the transaction failed: it carries an error with a text. -/
def isFailed (e : Envelope) : Bool :=
  match e.error with
  | some text => text ≠ ""
  | none => false

/-- The program of an instruction; programs are always static keys. -/
def programOf? (e : Envelope) (ix : CompiledInstruction) : Option Key :=
  e.accountKeys[ix.programIndex.toNat]?

/-- What the pools' vaults held of a mint: the first such entry, when its
    amount reads as a 128-bit integer. -/
def poolAmount? (balances : List TokenBalance) (mint : Key) : Option Int :=
  (balances.find? fun b => b.mint = mint ∧ b.owner = some Address.vaultAuthority).bind
    fun b => (Text.Decimal.readSigned 128 b.amount).toOption

/-- How many amounts there are; a difference that leaves their range wraps
    around. -/
def amountSpan : Nat := 0x100000000000000000000000000000000

/-- How much of a mint the pools paid out; zero unless both sides are known. -/
def poolSideDelta (e : Envelope) (mint : Key) : Int :=
  match poolAmount? e.preBalances mint, poolAmount? e.postBalances mint with
  | some pre, some post => (pre - post).bmod amountSpan
  | _, _ => 0

end Envelope

end PoolWatch
