import PoolWatch.Instruction
import PoolWatch.Text.Base58
import PoolWatch.Text.Blank
import PoolWatch.Text.Utf8

/-! # Inspecting instruction data

    A small tool beside the bot: it reads base 58 data of the watched
    program, one instruction a line, and says what each one is.  Blank lines
    are passed over, and a line that is not base 58 is reported aside. -/

namespace PoolWatch.Inspect

/-- A name and a number. -/
def field (name : String) (value : Nat) : String :=
  " " ++ name ++ "=" ++ Text.Decimal.ofNat value

/-- An instruction in words. -/
def describe : Instruction → String
  | .openPool nonce openTime quoteAmount baseAmount =>
    "Initialize2" ++ field "nonce" nonce.toNat ++ field "open_time" openTime.toNat ++
      field "pc" quoteAmount.toNat ++ field "coin" baseAmount.toNat
  | .withdraw amount => "Withdraw" ++ field "amount" amount.toNat
  | .swapBaseIn amountIn minimumOut =>
    "SwapBaseIn" ++ field "amount_in" amountIn.toNat ++ field "min_out" minimumOut.toNat
  | .swapBaseOut maximumIn amountOut =>
    "SwapBaseOut" ++ field "max_in" maximumIn.toNat ++ field "amount_out" amountOut.toNat
  | .computeBudget op value =>
    "ComputeBudget" ++ field "op" op.toNat ++ field "value" value.toNat
  | .transfer op amount =>
    "Transfer" ++ field "op" op.toNat ++ " amount=" ++ Text.Decimal.ofInt amount.toInt

/-- What is said of one line, and whether it is said as an error. -/
inductive Finding where
  | report (text : String)
  | fault (text : String)
  deriving DecidableEq, Repr

/-- What is said of a line, up to the detail of what is not base 58 in it. -/
def inspectLine (line : List Char) : Option Finding :=
  let raw := String.ofList (Text.trimChars line)
  if raw = "" then none
  else
    match Text.Base58.decode? raw with
    | none => some (.fault (raw ++ ": ERROR not base58"))
    | some data =>
      match Instruction.decodeVenue data with
      | .ok instruction => some (.report (raw ++ ": " ++ describe instruction))
      | .error e => some (.report (raw ++ ": " ++ e.message))

/-- What is said of a text, line by line. -/
def inspect (text : String) : List Finding :=
  (Text.lines text.toList).filterMap inspectLine

/-- The findings that are reports. -/
def reports (findings : List Finding) : List String :=
  findings.filterMap fun
    | .report text => some text
    | .fault _ => none

/-- The findings that are faults. -/
def faults (findings : List Finding) : List String :=
  findings.filterMap fun
    | .report _ => none
    | .fault text => some text

end PoolWatch.Inspect
