import PoolWatch.Bytes

/-! # Bytes as text

    Text arrives as UTF-8.  The strict reading refuses bytes that are not
    UTF-8; the lenient one puts a mark in place of every stretch that cannot
    be continued to a character. -/

namespace PoolWatch.Text.Utf8

/-- The text of some bytes, if they are UTF-8. -/
def decode? (bytes : Bytes) : Option String :=
  String.fromUTF8? ⟨bytes.toArray⟩

/-- The bytes of a text. -/
def encode (text : String) : Bytes :=
  text.toUTF8.data.toList

/-- The mark that usually stands for bytes that are no character. -/
def replacement : Char := '\ufffd'

/-- A byte that continues a character. -/
def isContinuation (b : UInt8) : Bool :=
  0x80 ≤ b && b ≤ 0xBF

/-- Whether a byte may come second after a leading one. -/
def isSecond (lead b : UInt8) : Bool :=
  if lead = 0xE0 then 0xA0 ≤ b && b ≤ 0xBF
  else if lead = 0xED then 0x80 ≤ b && b ≤ 0x9F
  else if lead = 0xF0 then 0x90 ≤ b && b ≤ 0xBF
  else if lead = 0xF4 then 0x80 ≤ b && b ≤ 0x8F
  else isContinuation b

/-- How many bytes a leading byte asks for after itself. -/
def following (lead : UInt8) : Option Nat :=
  if lead < 0x80 then some 0
  else if 0xC2 ≤ lead && lead ≤ 0xDF then some 1
  else if 0xE0 ≤ lead && lead ≤ 0xEF then some 2
  else if 0xF0 ≤ lead && lead ≤ 0xF4 then some 3
  else none

/-- The bytes after a leading one that continue it, at most `want`. -/
def continued (lead : UInt8) (want : Nat) (rest : Bytes) : Bytes :=
  match want, rest with
  | 0, _ => []
  | _, [] => []
  | want + 1, b :: more =>
    if isSecond lead b then b :: (more.take want).takeWhile isContinuation else []

/-- The bits of a leading byte that belong to the character. -/
def leadBits (lead : UInt8) (want : Nat) : Nat :=
  match want with
  | 0 => lead.toNat
  | 1 => lead.toNat % 32
  | 2 => lead.toNat % 16
  | _ => lead.toNat % 8

/-- The first character, and how many bytes after the leading one it takes. -/
def first (mark : Char) (lead : UInt8) (rest : Bytes) : Char × Nat :=
  match following lead with
  | none => (mark, 0)
  | some want =>
    let tail := continued lead want rest
    if tail.length = want then
      (Char.ofNat (tail.foldl (fun acc b => acc * 64 + b.toNat % 64) (leadBits lead want)), want)
    else (mark, tail.length)

/-- The characters of some bytes, marks included. -/
def lenientChars (mark : Char) : Bytes → List Char
  | [] => []
  | lead :: rest =>
    let (c, used) := first mark lead rest
    c :: lenientChars mark (rest.drop used)
termination_by bytes => bytes.length
decreasing_by simp only [List.length_drop, List.length_cons]; omega

/-- The text of some bytes, replacement characters included. -/
def decode (bytes : Bytes) : String :=
  String.ofList (lenientChars replacement bytes)

end PoolWatch.Text.Utf8
