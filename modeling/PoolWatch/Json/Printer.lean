import PoolWatch.Json.Value
import PoolWatch.Text.Hex

/-! # JSON texts

    The compact text of a document: no blanks, members in their order, and
    in strings only quotes, backslashes and control characters escaped.

    `canonical` is the document a general value stands for: members sorted
    by name with the last of repeated names kept, and numbers that are no
    64-bit integer rounded to binary64.  A document that no general value
    stands for has no canonical form. -/

namespace PoolWatch

namespace Json

/-- How one character is written inside a string. -/
def escape (c : Char) : List Char :=
  match c with
  | '"' => ['\\', '"']
  | '\\' => ['\\', '\\']
  | '\n' => ['\\', 'n']
  | '\r' => ['\\', 'r']
  | '\t' => ['\\', 't']
  | '\x08' => ['\\', 'b']
  | '\x0c' => ['\\', 'f']
  | c =>
    if c.toNat < 32 then
      ['\\', 'u', '0', '0', Text.Hex.digit (c.toNat / 16), Text.Hex.digit (c.toNat % 16)]
    else [c]

/-- A string between its quotes. -/
def stringChars (s : String) : List Char :=
  '"' :: s.toList.flatMap escape ++ ['"']

/-- A numeral as written. -/
def numeralChars (n : Numeral) : List Char :=
  (if n.negative then ['-'] else []) ++ Text.Decimal.natChars n.whole ++
    (match n.fraction with
      | none => []
      | some ds => '.' :: ds) ++
    (match n.exponent with
      | none => []
      | some (minus, ds) => (if minus then ['e', '-'] else ['e']) ++ ds)

mutual

/-- The compact text of a document. -/
def chars : Json → List Char
  | .null => ['n', 'u', 'l', 'l']
  | .bool true => ['t', 'r', 'u', 'e']
  | .bool false => ['f', 'a', 'l', 's', 'e']
  | .number n => numeralChars n
  | .string s => stringChars (s.getD "")
  | .array [] => ['[', ']']
  | .array (item :: rest) => '[' :: chars item ++ itemChars rest
  | .object [] => ['\x7b', '\x7d']
  | .object ((name, value) :: rest) =>
    '\x7b' :: stringChars (name.getD "") ++ ':' :: chars value ++ memberChars rest

/-- The items after the first, up to the closing bracket. -/
def itemChars : List Json → List Char
  | [] => [']']
  | item :: rest => ',' :: chars item ++ itemChars rest

/-- The members after the first, up to the closing brace. -/
def memberChars : List (Option String × Json) → List Char
  | [] => ['\x7d']
  | (name, value) :: rest =>
    ',' :: stringChars (name.getD "") ++ ':' :: chars value ++ memberChars rest

end

/-- The compact text of a document. -/
def compact (j : Json) : String :=
  String.ofList j.chars

/-! ## General values -/

/-- Inserts a member by the byte order of names; a later one replaces. -/
def insertMember (name : String) (value : Json) :
    List (Option String × Json) → List (Option String × Json)
  | [] => [(some name, value)]
  | (other, v) :: rest =>
    if name < other.getD "" then (some name, value) :: (other, v) :: rest
    else if other = some name then (some name, value) :: rest
    else (other, v) :: insertMember name value rest

/-- A binary64 in the style of general values: positional between `1e-5` and
    `1e16` with at least one place, else one digit before the point and an
    exponent. -/
def binary64Numeral (negative : Bool) (x : Binary64) : Numeral :=
  let (ds, power) := x.shortest
  let dchars := Text.Decimal.natChars ds
  let point : Int := (dchars.length : Int) + power
  let wholeOf (cs : List Char) : Nat := (Text.Decimal.natOfChars? cs).getD 0
  if ds = 0 then ⟨negative, 0, some ['0'], none⟩
  else if 0 ≤ power ∧ point ≤ 16 then ⟨negative, ds * Nat.pow 10 power.toNat, some ['0'], none⟩
  else if 0 < point ∧ point ≤ 16 then
    ⟨negative, wholeOf (dchars.take point.toNat), some (dchars.drop point.toNat), none⟩
  else if -5 < point ∧ point ≤ 0 then
    ⟨negative, 0, some (List.replicate (-point).toNat '0' ++ dchars), none⟩
  else
    let e := point - 1
    let fraction := if dchars.length = 1 then none else some dchars.tail
    ⟨negative, wholeOf (dchars.take 1), fraction,
      some (e < 0, Text.Decimal.natChars e.natAbs)⟩

/-- A number of a general value: an unsigned or a signed 64-bit integer, else
    the binary64 that the numeral is read as. -/
def canonicalNumeral? (n : Numeral) : Option Numeral :=
  match n.toInt? with
  | some v =>
    if -0x8000000000000000 ≤ v ∧ v ≤ 0xffffffffffffffff then some (.ofInt v)
    else n.toBinary64?.map (binary64Numeral n.negative)
  | none => n.toBinary64?.map (binary64Numeral n.negative)

mutual

/-- The general value a document stands for; `depth` more containers may be
    opened. -/
def canonical? (depth : Nat) : Json → Option Json
  | .null => some .null
  | .bool b => some (.bool b)
  | .number n => (canonicalNumeral? n).map .number
  | .string none => none
  | .string (some s) => some (.string (some s))
  | .array items =>
    if depth = 0 then none else (canonicalItems? (depth - 1) items).map .array
  | .object members =>
    if depth = 0 then none else (canonicalMembers? (depth - 1) [] members).map .object

/-- Each item in turn. -/
def canonicalItems? (depth : Nat) : List Json → Option (List Json)
  | [] => some []
  | item :: rest => do
    let item ← canonical? depth item
    let rest ← canonicalItems? depth rest
    pure (item :: rest)

/-- Each member in turn, onto those already sorted. -/
def canonicalMembers? (depth : Nat) (sorted : List (Option String × Json)) :
    List (Option String × Json) → Option (List (Option String × Json))
  | [] => some sorted
  | (none, _) :: _ => none
  | (some name, value) :: rest => do
    let value ← canonical? depth value
    canonicalMembers? depth (insertMember name value sorted) rest

end

/-- How many containers may be open at once in a general value. -/
def maxDepth : Nat := 127

end Json

end PoolWatch
