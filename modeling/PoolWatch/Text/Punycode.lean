import PoolWatch.Text.Blank

/-! # Punycode

    A text beyond ASCII written in letters, digits and hyphens.  The
    characters of ASCII come first, up to the last hyphen.  After it stand
    numbers that say where the others go, each as the distance from the one
    before it, in digits whose range shrinks and grows with the numbers seen
    so far. -/

namespace PoolWatch.Text.Punycode

/-! ## Digits -/

/-- The number of digits. -/
def base : Nat := 36

/-- The value of a digit. -/
def digit? (c : Char) : Option Nat :=
  let c := lowerChar c
  if 'a' ≤ c ∧ c ≤ 'z' then some (c.toNat - 97)
  else if '0' ≤ c ∧ c ≤ '9' then some (c.toNat - 48 + 26)
  else none

/-- The least digit that does not end a number, at a place and under a
    bias. -/
def threshold (place bias : Nat) : Nat :=
  if place ≤ bias then 1 else if bias + 26 ≤ place then 26 else place - bias

/-- Makes a distance small, and counts in steps of the base how often. -/
def shrink (distance count : Nat) : Nat × Nat :=
  if 455 < distance then shrink (distance / 35) (count + base) else (distance, count)
termination_by distance
decreasing_by exact Nat.div_lt_self (by omega) (by omega)

/-- The bias after a distance, in a text that now has some length. -/
def adapt (distance length : Nat) (first : Bool) : Nat :=
  let distance := if first then distance / 700 else distance / 2
  let (distance, count) := shrink (distance + distance / length) 0
  count + base * distance / (distance + 38)

/-! ## Reading -/

/-- The largest number that is read. -/
def maxNumber : Nat := 0xffffffff

/-- A text that is being read: what there is of it, the code point and the
    position that were reached, and the number that is being read: where it
    started, and the place and weight of its next digit. -/
structure Reading where
  output : List Char
  codePoint : Nat
  position : Nat
  start : Nat
  place : Nat
  weight : Nat
  bias : Nat

/-- What is known before the first number. -/
def Reading.ofAscii (output : List Char) : Reading :=
  ⟨output, 0x80, 0, 0, base, 1, 72⟩

/-- A character of a code point. -/
def char? (n : Nat) : Option Char :=
  if h : n.isValidChar then some (Char.ofNatAux n h) else none

/-- Puts in the character whose number has been read. -/
def Reading.finish (r : Reading) : Option Reading := do
  let length := r.output.length + 1
  let codePoint := r.codePoint + r.position / length
  let position := r.position % length
  let c ← char? codePoint
  pure
    { output := r.output.take position ++ c :: r.output.drop position
      codePoint
      position := position + 1
      start := position + 1
      place := base
      weight := 1
      bias := adapt (r.position - r.start) length (r.start = 0) }

/-- Takes a digit. -/
def Reading.step (r : Reading) (c : Char) : Option Reading := do
  let d ← digit? c
  let position := r.position + d * r.weight
  if maxNumber < position then none
  else
    let r := { r with position }
    let least := threshold r.place r.bias
    if d < least then r.finish
    else
      let weight := r.weight * (base - least)
      if maxNumber < weight then none
      else some { r with place := r.place + base, weight }

/-- The characters before the last hyphen, and the digits after it.  A hyphen
    that nothing stands before is taken as a digit, which it is not. -/
def split (cs : List Char) : List Char × List Char :=
  let digits := (cs.reverse.takeWhile (· ≠ '-')).reverse
  let front := cs.take (cs.length - digits.length)
  if front.length ≤ 1 then ([], cs) else (front.dropLast, digits)

/-- The text that some characters write. -/
def decode? (cs : List Char) : Option (List Char) := do
  let (ascii, digits) := split cs
  let r ← digits.foldlM Reading.step (.ofAscii ascii)
  if r.place = base then some r.output else none

end PoolWatch.Text.Punycode
