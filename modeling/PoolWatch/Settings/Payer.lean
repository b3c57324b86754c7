import PoolWatch.Curve.Signature
import PoolWatch.Files
import PoolWatch.Settings.Basic

/-! # The payer

    Who pays is given by a secret of 64 bytes: a seed, and the public key
    that belongs to it.  It stands in a variable in base 58, or else in a
    file as an array of numbers. -/

namespace PoolWatch

/-- Why a file holds no secret. -/
inductive PairFileFault where
  | unreadable (fault : FileFault)
  | notText
  | notArray
  | wrongCount (found : Nat)
  | badNumber (fault : Text.Decimal.Fault)
  | badPair
  deriving DecidableEq, Repr

/-- Bytes in a secret. -/
def pairSize : Nat := 64

/-- What is said of bytes that are no secret. -/
def badPairText : String := "signature error: signature error"

/-- What is wrong, as a sentence. -/
def PairFileFault.message : PairFileFault → String
  | .unreadable fault => fault.message
  | .notText => "stream did not contain valid UTF-8"
  | .notArray => "Input must be a JSON array"
  | .wrongCount found =>
    "Expected " ++ Text.Decimal.ofNat pairSize ++ " elements, found " ++ Text.Decimal.ofNat found
  | .badNumber fault => fault.message
  | .badPair => badPairText

/-- Why there is no payer. -/
inductive PayerError where
  | notBase58
  | badSecret
  | missing
  | unreadable (path : String) (fault : PairFileFault)
  deriving DecidableEq, Repr

/-- What is wrong, as a sentence. -/
def PayerError.message : PayerError → String
  | .notBase58 => "PAYER_PRIVATE_KEY is not base58"
  | .badSecret => "bad PAYER_PRIVATE_KEY: " ++ badPairText
  | .missing => "missing payer key"
  | .unreadable path fault => "read keypair " ++ path ++ ": " ++ fault.message

namespace Payer

/-- The seed in a secret: its second half has to be the public key of its
    first. -/
def seedOfPair? (bytes : Bytes) : Option Bytes :=
  let seed := bytes.take 32
  if bytes.length = pairSize ∧ bytes.drop 32 = Curve.publicKey seed then some seed else none

/-- A value or an error in its place. -/
def orError {ε α : Type} (error : ε) : Option α → Except ε α
  | some a => .ok a
  | none => .error error

/-- The bytes that some numbers write. -/
def readNumbers : List (List Char) → Except PairFileFault Bytes
  | [] => .ok []
  | text :: rest =>
    match Text.Decimal.readUnsigned 8 (String.ofList text) with
    | .error fault => .error (.badNumber fault)
    | .ok n => (readNumbers rest).map (UInt8.ofNat n :: ·)

/-- The seed that the text of a file writes. -/
def seedOfText (text : List Char) : Except PairFileFault Bytes :=
  let trimmed := Text.trimChars text
  if trimmed.head? ≠ some '[' ∨ trimmed.getLast? ≠ some ']' then .error .notArray
  else
    let items := (Text.splitChars ',' trimmed.tail.dropLast).map Text.trimChars
    if items.length ≠ pairSize then .error (.wrongCount items.length)
    else
      match readNumbers items with
      | .error fault => .error fault
      | .ok bytes => orError .badPair (seedOfPair? bytes)

/-- The seed in the bytes of a file. -/
def seedOfFile : Except FileFault Bytes → Except PairFileFault Bytes
  | .error fault => .error (.unreadable fault)
  | .ok bytes =>
    match Text.Utf8.decode? bytes with
    | none => .error .notText
    | some text => seedOfText text.toList

/-- The payer's seed: of the secret if one is set, else of the file. -/
def load (s : Settings) (disk : Disk) : Except PayerError Bytes :=
  match s.payerSecret, s.payerFile with
  | some secret, _ =>
    match Text.Base58.decode? secret with
    | none => .error .notBase58
    | some bytes => orError .badSecret (seedOfPair? bytes)
  | none, some path => (seedOfFile (disk.read path)).mapError (.unreadable path)
  | none, none => .error .missing

end Payer

end PoolWatch
