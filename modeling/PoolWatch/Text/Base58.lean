import PoolWatch.Bytes
import PoolWatch.Text.Decimal

/-! # Base 58

    A byte string is a big-endian number written in 58 digits that are hard
    to confuse.  A leading zero byte does not show in the number, so each is
    written as one leading `1`, the digit for zero. -/

namespace PoolWatch.Text.Base58

/-- The digits in order of value: no zero, capital O, capital I or small L. -/
def alphabet : List Char :=
  "123456789ABCDEFGHJKLMNPQRSTUVWXYZabcdefghijkmnopqrstuvwxyz".toList

/-- The digit of a value below 58. -/
def digit (n : Nat) : Char :=
  alphabet.getD n '1'

/-- The value of a digit. -/
def value? (c : Char) : Option Nat :=
  alphabet.idxOf? c

/-- Leading `1`s for leading zero bytes, then the number of the rest. -/
def encodeChars (bytes : Bytes) : List Char :=
  let zeros := (bytes.takeWhile (· == 0)).length
  let number := natOfBE bytes
  List.replicate zeros '1' ++ ((digits 58 (by decide) number).map digit).reverse

/-- Leading zero bytes for leading `1`s, then the bytes of the number. -/
def decodeChars? (text : List Char) : Option Bytes := do
  let values ← text.mapM value?
  let zeros := (values.takeWhile (· == 0)).length
  let number := ofDigits 58 values.reverse
  pure (List.replicate zeros 0 ++
    ((digits 256 (by decide) number).map UInt8.ofNat).reverse)

/-- The text of a byte string. -/
def encode (bytes : Bytes) : String :=
  String.ofList (encodeChars bytes)

/-- The byte string of a text; nothing when a character is no digit. -/
def decode? (text : String) : Option Bytes :=
  decodeChars? text.toList

end PoolWatch.Text.Base58
