import PoolWatch.Json.Value
import PoolWatch.Text.Hex

/-! # Words of a JSON text

    A text is cut into punctuation, literals, numerals and strings; blanks
    between them fall away.  A string may write a character outside the
    basic plane as two escapes, so its escapes are first read as code units
    and then joined. -/

namespace PoolWatch

namespace Json

/-- One word of a text. -/
inductive Token where
  | openArray
  | closeArray
  | openObject
  | closeObject
  | comma
  | colon
  | null
  | bool (value : Bool)
  | number (value : Numeral)
  | string (text : Option String)
  deriving Repr

/-! ## Strings -/

/-- A piece of a string: a character as it stands, or an escaped code unit. -/
inductive Piece where
  | char (c : Char)
  | unit (n : Nat)
  deriving Repr

/-- The value of four hexadecimal digits. -/
def codeUnit? (a b c d : Char) : Option Nat := do
  let a ← Text.Hex.value? a
  let b ← Text.Hex.value? b
  let c ← Text.Hex.value? c
  let d ← Text.Hex.value? d
  pure (((a * 16 + b) * 16 + c) * 16 + d)

/-- Reads the inside of a string up to its closing quote, and what follows.
    A bare control character or an unknown escape refuses the text. -/
def scanString : List Char → Option (List Piece × List Char)
  | [] => none
  | '"' :: rest => some ([], rest)
  | '\\' :: 'u' :: a :: b :: c :: d :: rest => do
    let n ← codeUnit? a b c d
    let (pieces, rest) ← scanString rest
    pure (.unit n :: pieces, rest)
  | '\\' :: e :: rest => do
    let c ←
      match e with
      | '"' => some '"'
      | '\\' => some '\\'
      | '/' => some '/'
      | 'b' => some '\x08'
      | 'f' => some '\x0c'
      | 'n' => some '\n'
      | 'r' => some '\r'
      | 't' => some '\t'
      | _ => none
    let (pieces, rest) ← scanString rest
    pure (.char c :: pieces, rest)
  | c :: rest =>
    if c.toNat < 32 || c = '\\' then none
    else do
      let (pieces, rest) ← scanString rest
      pure (.char c :: pieces, rest)

/-- Joins surrogate pairs; a lone half spells no text. -/
def joinPieces : List Piece → Option (List Char)
  | [] => some []
  | .char c :: rest => (joinPieces rest).map (c :: ·)
  | .unit h :: .unit l :: rest =>
    if 0xD800 ≤ h ∧ h < 0xDC00 then
      if 0xDC00 ≤ l ∧ l < 0xE000 then
        (joinPieces rest).map
          (Char.ofNat (0x10000 + (h - 0xD800) * 0x400 + (l - 0xDC00)) :: ·)
      else none
    else if 0xDC00 ≤ h ∧ h < 0xE000 then none
    else (joinPieces (.unit l :: rest)).map (Char.ofNat h :: ·)
  | .unit n :: rest =>
    if 0xD800 ≤ n ∧ n < 0xE000 then none
    else (joinPieces rest).map (Char.ofNat n :: ·)

/-! ## Numerals -/

/-- A decimal digit. -/
def isDigit (c : Char) : Bool :=
  '0' ≤ c ∧ c ≤ '9'

/-- The digits in front and what follows; at least one is asked for. -/
def digits1? (cs : List Char) : Option (List Char × List Char) :=
  match cs.takeWhile isDigit with
  | [] => none
  | ds => some (ds, cs.dropWhile isDigit)

/-- Integer digits: a single zero, or digits that do not start with zero. -/
def scanWhole : List Char → Option (Nat × List Char)
  | '0' :: rest => some (0, rest)
  | cs => do
    let (ds, rest) ← digits1? cs
    let n ← Text.Decimal.natOfChars? ds
    pure (n, rest)

/-- The digits after a point, if there is one. -/
def scanFraction : List Char → Option (Option (List Char) × List Char)
  | '.' :: rest => (digits1? rest).map fun (ds, rest) => (some ds, rest)
  | cs => some (none, cs)

/-- The digits of an exponent after its sign. -/
def scanExponentDigits : List Char → Option ((Bool × List Char) × List Char)
  | '+' :: rest => (digits1? rest).map fun (ds, rest) => ((false, ds), rest)
  | '-' :: rest => (digits1? rest).map fun (ds, rest) => ((true, ds), rest)
  | cs => (digits1? cs).map fun (ds, rest) => ((false, ds), rest)

/-- The exponent, if there is one. -/
def scanExponent : List Char → Option (Option (Bool × List Char) × List Char)
  | 'e' :: rest => (scanExponentDigits rest).map fun (e, rest) => (some e, rest)
  | 'E' :: rest => (scanExponentDigits rest).map fun (e, rest) => (some e, rest)
  | cs => some (none, cs)

/-- A numeral after its sign. -/
def scanMagnitude (negative : Bool) (cs : List Char) : Option (Numeral × List Char) := do
  let (whole, cs) ← scanWhole cs
  let (fraction, cs) ← scanFraction cs
  let (exponent, cs) ← scanExponent cs
  pure (⟨negative, whole, fraction, exponent⟩, cs)

/-- A numeral and what follows it. -/
def scanNumeral : List Char → Option (Numeral × List Char)
  | '-' :: cs => scanMagnitude true cs
  | cs => scanMagnitude false cs

/-! ## Words -/

/-- The word at the front of a text that starts with no blank. -/
def scanToken : List Char → Option (Token × List Char)
  | '[' :: rest => some (.openArray, rest)
  | ']' :: rest => some (.closeArray, rest)
  | '\x7b' :: rest => some (.openObject, rest)
  | '\x7d' :: rest => some (.closeObject, rest)
  | ',' :: rest => some (.comma, rest)
  | ':' :: rest => some (.colon, rest)
  | 'n' :: 'u' :: 'l' :: 'l' :: rest => some (.null, rest)
  | 't' :: 'r' :: 'u' :: 'e' :: rest => some (.bool true, rest)
  | 'f' :: 'a' :: 'l' :: 's' :: 'e' :: rest => some (.bool false, rest)
  | '"' :: rest =>
    (scanString rest).map fun (pieces, rest) =>
      (.string ((joinPieces pieces).map String.ofList), rest)
  | cs => (scanNumeral cs).map fun (n, rest) => (.number n, rest)

/-- The four blanks of the grammar. -/
def isSpace (c : Char) : Bool :=
  c = ' ' || c = '\n' || c = '\t' || c = '\r'

/-- Cuts at most `fuel` words or blanks; each takes at least one character. -/
def tokensWithin : Nat → List Char → Option (List Token)
  | _, [] => some []
  | 0, _ :: _ => none
  | fuel + 1, c :: rest =>
    if isSpace c then tokensWithin fuel rest
    else do
      let (token, rest) ← scanToken (c :: rest)
      let tokens ← tokensWithin fuel rest
      pure (token :: tokens)

/-- The words of a text. -/
def tokens? (cs : List Char) : Option (List Token) :=
  tokensWithin cs.length cs

end Json

end PoolWatch
