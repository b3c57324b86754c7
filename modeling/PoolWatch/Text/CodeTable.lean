import PoolWatch.Text.Blank
import PoolWatch.Text.Hex

/-! # Tables of code points

    Large tables of characters, written as texts and read once.  A text holds
    items between blanks, with all numbers in hexadecimal:

    * `41` or `41-5A` stands for a code point or all of a range;
    * `100-12E/2` stands for every second one;
    * `C0-D6>E0` says what each of them goes to, in the same order;
    * `A0>20,61` goes through the code points from the first on, and
      `A8>20.308` gives one of them several code points to go to. -/

namespace PoolWatch.Text

/-- Code points in even steps, and what the first of them goes to. -/
structure CodeRun where
  first : Nat
  last : Nat
  step : Nat
  image : List Nat
  deriving DecidableEq, Repr

/-- The runs of a table. -/
structure CodeTable where
  runs : Array CodeRun
  deriving Repr

namespace CodeRun

/-- Whether a code point is in the run. -/
def contains (r : CodeRun) (n : Nat) : Bool :=
  r.first ≤ n && n ≤ r.last && (n - r.first) % r.step = 0

/-- What a code point of the run goes to. -/
def imageOf (r : CodeRun) (n : Nat) : List Nat :=
  r.image.map (· + (n - r.first))

/-! ## Reading -/

/-- The number that hexadecimal digits write. -/
def number (digits : List Char) : Nat :=
  digits.foldl (fun n c => 16 * n + (Hex.value? c).getD 0) 0

/-- The parts of a text before and after a sign; nothing after a sign that is
    not there. -/
def cut (sign : Char) (cs : List Char) : List Char × List Char :=
  let front := cs.takeWhile (· ≠ sign)
  (front, cs.drop (front.length + 1))

/-- The code points that several numbers write. -/
def numbers (cs : List Char) : List Nat :=
  if cs.isEmpty then [] else (splitChars '.' cs).map number

/-- The runs of an item. -/
def ofItem (item : List Char) : List CodeRun :=
  let (keys, images) := cut '>' item
  let (range, step) := cut '/' keys
  let (first, last) := cut '-' range
  if last.isEmpty then
    (splitChars ',' images).zipIdx.map fun (text, i) =>
      ⟨number first + i, number first + i, 1, numbers text⟩
  else [⟨number first, number last, if step.isEmpty then 1 else number step, numbers images⟩]

end CodeRun

namespace CodeTable

/-- The table that some lines write. -/
def ofText (lines : List String) : CodeTable :=
  ⟨(lines.flatMap fun line => (splitChars ' ' line.toList).flatMap CodeRun.ofItem).toArray⟩

/-- Whether a code point is in the table. -/
def contains (t : CodeTable) (n : Nat) : Bool :=
  t.runs.any (·.contains n)

/-- What a code point goes to, if it is in the table. -/
def find? (t : CodeTable) (n : Nat) : Option (List Nat) :=
  (t.runs.find? (·.contains n)).map (·.imageOf n)

end CodeTable

end PoolWatch.Text
