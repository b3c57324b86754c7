/-! # Decimal integers

    Writing integers in decimal, and reading them into a range.  A number is
    written by its digits, which it has in every base of at least two.

    A reader takes an optional plus sign, a minus sign where the range has
    negative numbers, and then ASCII digits only.  It stops at the first
    character that cannot be taken, so of two faults the leftmost is the one
    named. -/

namespace PoolWatch.Text

/-! ## Digits -/

/-- Digits of `n` in the base, least significant first; zero has none. -/
def digits (base : Nat) (hb : 2 ≤ base) (n : Nat) : List Nat :=
  if n = 0 then [] else n % base :: digits base hb (n / base)
termination_by n
decreasing_by exact Nat.div_lt_self (by omega) hb

/-- Value of a list of digits, least significant first. -/
def ofDigits (base : Nat) : List Nat → Nat
  | [] => 0
  | d :: rest => d + base * ofDigits base rest

namespace Decimal

/-! ## Integers -/

/-- Why a text is not an integer of the range. -/
inductive Fault where
  | empty
  | badDigit
  | tooLarge
  | tooSmall
  deriving DecidableEq, Repr

/-- What is wrong, as a sentence. -/
def Fault.message : Fault → String
  | .empty => "cannot parse integer from empty string"
  | .badDigit => "invalid digit found in string"
  | .tooLarge => "number too large to fit in target type"
  | .tooSmall => "number too small to fit in target type"

/-- The character of a digit below ten. -/
def digitChar (n : Nat) : Char :=
  Char.ofNat (48 + n)

/-- The value of an ASCII digit. -/
def digitValue? (c : Char) : Option Nat :=
  if '0' ≤ c ∧ c ≤ '9' then some (c.toNat - 48) else none

/-- Digits of a natural number, most significant first; zero is `0`. -/
def natChars (n : Nat) : List Char :=
  if n = 0 then ['0'] else ((digits 10 (by decide) n).map digitChar).reverse

/-- A natural number in decimal. -/
def ofNat (n : Nat) : String :=
  String.ofList (natChars n)

/-- Digits of an integer, after a minus sign when it is negative. -/
def intChars (n : Int) : List Char :=
  if n < 0 then '-' :: natChars n.natAbs else natChars n.natAbs

/-- An integer in decimal. -/
def ofInt (n : Int) : String :=
  String.ofList (intChars n)

/-- Value of a run of digits, most significant first. -/
def natOfChars? (text : List Char) : Option Nat :=
  text.foldl (fun acc c => acc.bind fun v => (digitValue? c).map (10 * v + ·)) (some 0)

/-- Takes digits one by one onto a running value that may not pass a bound;
    a bad character is named before an overflow that it would be part of. -/
def accumulate (bound : Nat) (overflow : Fault) : Nat → List Char → Except Fault Nat
  | acc, [] => .ok acc
  | acc, c :: rest =>
    match digitValue? c with
    | none => .error .badDigit
    | some d =>
      if bound < 10 * acc + d then .error overflow
      else accumulate bound overflow (10 * acc + d) rest

/-- Reads an integer between `-low` and `high`; the minus sign is a bad digit
    when `low` is zero. -/
def readChars (low high : Nat) : List Char → Except Fault Int
  | [] => .error .empty
  | ['+'] => .error .badDigit
  | ['-'] => .error .badDigit
  | '+' :: rest => (accumulate high .tooLarge 0 rest).map Int.ofNat
  | '-' :: rest =>
    if low = 0 then .error .badDigit
    else (accumulate low .tooSmall 0 rest).map fun n => -Int.ofNat n
  | text => (accumulate high .tooLarge 0 text).map Int.ofNat

/-- Reads a natural number up to a bound. -/
def readNat (bound : Nat) (text : String) : Except Fault Nat :=
  (readChars 0 bound text.toList).map Int.toNat

/-- Reads an integer of the given two's-complement width. -/
def readSigned (bits : Nat) (text : String) : Except Fault Int :=
  readChars (Nat.pow 2 (bits - 1)) (Nat.pow 2 (bits - 1) - 1) text.toList

/-- Reads a natural number of the given width. -/
def readUnsigned (bits : Nat) (text : String) : Except Fault Nat :=
  readNat (Nat.pow 2 bits - 1) text

end Decimal

end PoolWatch.Text
