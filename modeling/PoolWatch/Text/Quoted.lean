import PoolWatch.Bytes
import PoolWatch.Text.Decimal
import PoolWatch.Text.Hex
import PoolWatch.Text.Printable

/-! # Quoted text

    A text between double quotes in which nothing is ambiguous or invisible:
    quotes and backslashes are escaped, the common controls have letters,
    and every other character that would not show by itself is written as
    its code point in braces. -/

namespace PoolWatch.Text.Quoted

/-- A code point in hexadecimal between braces. -/
def codePoint (c : Char) : List Char :=
  let hex := if c.toNat = 0 then ['0'] else ((digits 16 (by decide) c.toNat).map Hex.digit).reverse
  ['\\', 'u', '\x7b'] ++ hex ++ ['\x7d']

/-- How one character is written. -/
def escape (c : Char) : List Char :=
  match c with
  | '\x00' => ['\\', '0']
  | '\t' => ['\\', 't']
  | '\r' => ['\\', 'r']
  | '\n' => ['\\', 'n']
  | '"' => ['\\', '"']
  | '\\' => ['\\', '\\']
  | c => if isExtending c || !isPrintable c then codePoint c else [c]

/-- A text between double quotes, each character written unambiguously. -/
def quote (text : String) : String :=
  String.ofList ('"' :: text.toList.flatMap escape ++ ['"'])

end PoolWatch.Text.Quoted
