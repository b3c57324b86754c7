/-! # Blank characters and letter case

    Which characters count as blank at the ends of a setting or a line, and
    the case folding that touches ASCII letters only. -/

namespace PoolWatch.Text

/-- The characters of the Unicode property `White_Space`. -/
def isBlank (c : Char) : Bool :=
  let n := c.toNat
  (0x9 ≤ n && n ≤ 0xD) || n == 0x20 || n == 0x85 || n == 0xA0 || n == 0x1680 ||
    (0x2000 ≤ n && n ≤ 0x200A) || n == 0x2028 || n == 0x2029 || n == 0x202F ||
    n == 0x205F || n == 0x3000

/-- Drops the blanks at both ends. -/
def trimChars (text : List Char) : List Char :=
  ((text.dropWhile isBlank).reverse.dropWhile isBlank).reverse

/-- Drops the blanks at both ends. -/
def trim (text : String) : String :=
  String.ofList (trimChars text.toList)

/-- Small letter for a capital ASCII letter, any other character unchanged. -/
def lowerChar (c : Char) : Char :=
  if 'A' ≤ c ∧ c ≤ 'Z' then Char.ofNat (c.toNat + 32) else c

/-- ASCII letters made small, all else unchanged. -/
def lowerChars (text : List Char) : List Char :=
  text.map lowerChar

/-- ASCII letters made small, all else unchanged. -/
def lower (text : String) : String :=
  String.ofList (lowerChars text.toList)

/-- The pieces between separators: one more piece than there are separators. -/
def splitChars (sep : Char) : List Char → List (List Char)
  | [] => [[]]
  | c :: rest =>
    if c = sep then [] :: splitChars sep rest
    else
      match splitChars sep rest with
      | [] => [[c]]
      | piece :: more => (c :: piece) :: more

/-- The lines of a text: each ends at a line feed, a carriage return before
    which belongs to the line end, and the last needs none. -/
def lines (text : List Char) : List (List Char) :=
  let pieces := splitChars '\n' text
  let pieces := if pieces.getLast? = some [] then pieces.dropLast else pieces
  pieces.map fun line => if line.getLast? = some '\r' then line.dropLast else line

end PoolWatch.Text
