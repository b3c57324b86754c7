import PoolWatch.Address
import PoolWatch.Text.Decimal

/-! # Instruction data

    What the data of an instruction says, for the three programs that are
    read: the watched pools, the compute budget and the native transfers.
    Fields past the end of the data read as zero, so short data is never
    refused; only an unknown first byte is.

    Swaps are also written, in the form that reading gives back. -/

namespace PoolWatch

/-- Why data could not be decoded. -/
inductive DecodeError where
  | unknownInstruction (tag : UInt8)
  | unsupportedProgram (program : Key)
  | accountTooShort (need got : Nat)
  | tableInvalid
  | tableUninitialized
  deriving DecidableEq

/-- What is wrong, as a sentence. -/
def DecodeError.message : DecodeError → String
  | .unknownInstruction tag =>
    "unknown instruction discriminator " ++ Text.Decimal.ofNat tag.toNat
  | .unsupportedProgram program => "program " ++ program.text ++ " has no instruction decoder"
  | .accountTooShort need got =>
    "account data too short: need " ++ Text.Decimal.ofNat need ++ " bytes, got " ++
      Text.Decimal.ofNat got
  | .tableInvalid => "lookup table account: invalid account data for instruction"
  | .tableUninitialized =>
    "lookup table account: instruction requires an initialized account"

/-- Every instruction that is understood. -/
inductive Instruction where
  | openPool (nonce : UInt8) (openTime quoteAmount baseAmount : UInt64)
  | withdraw (amount : UInt64)
  | swapBaseIn (amountIn minimumOut : UInt64)
  | swapBaseOut (maximumIn amountOut : UInt64)
  | computeBudget (op : UInt8) (value : UInt32)
  | transfer (op : UInt32) (amount : Int64)
  deriving DecidableEq, Repr

namespace Instruction

/-! ## Tags -/

/-- First byte of a pool's opening. -/
def openPoolTag : UInt8 := 1

/-- First byte of a withdrawal of liquidity. -/
def withdrawTag : UInt8 := 4

/-- First byte of a swap that fixes what goes in. -/
def swapBaseInTag : UInt8 := 9

/-- First byte of a swap that fixes what comes out. -/
def swapBaseOutTag : UInt8 := 11

/-- First byte of a compute limit. -/
def computeLimitOp : UInt8 := 2

/-- First byte of a compute price. -/
def computePriceOp : UInt8 := 3

/-- First word of a transfer of lamports. -/
def transferOp : UInt32 := 2

/-! ## Reading -/

/-- Reads the data of an instruction of the watched program. -/
def decodeVenue : Bytes → Except DecodeError Instruction
  | [] => .error (.unknownInstruction 0)
  | tag :: fields =>
    if tag = openPoolTag then
      .ok (.openPool ((fields.head?).getD 0) (word64At fields 1) (word64At fields 9)
        (word64At fields 17))
    else if tag = withdrawTag then .ok (.withdraw (word64At fields 0))
    else if tag = swapBaseInTag then .ok (.swapBaseIn (word64At fields 0) (word64At fields 8))
    else if tag = swapBaseOutTag then .ok (.swapBaseOut (word64At fields 0) (word64At fields 8))
    else .error (.unknownInstruction tag)

/-- Operation and 32-bit value of a compute-budget instruction. -/
def decodeComputeBudget (data : Bytes) : Instruction :=
  .computeBudget ((data.head?).getD 0) (word32At data 1)

/-- Operation and amount of a native transfer. -/
def decodeTransfer (data : Bytes) : Instruction :=
  .transfer (word32At data 0) (signed64At data 4)

/-- Reads the data of an instruction of a given program. -/
def decodeFor (program : Key) (data : Bytes) : Except DecodeError Instruction :=
  if program = Address.venueProgram then decodeVenue data
  else if program = Address.computeBudgetProgram then .ok (decodeComputeBudget data)
  else if program = Address.systemProgram then .ok (decodeTransfer data)
  else .error (.unsupportedProgram program)

/-! ## Writing -/

/-- The data of a swap that fixes what goes in. -/
def encodeSwap (amountIn minimumOut : UInt64) : Bytes :=
  swapBaseInTag :: leOfWord64 amountIn ++ leOfWord64 minimumOut

end Instruction

end PoolWatch
