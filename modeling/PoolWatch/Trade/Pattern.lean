import PoolWatch.Text.Blank

/-! # Text patterns

    In a pattern `%` stands for any text and `_` for any one character;
    every other character stands for itself, ASCII letters in either case.
    A text ends at its first zero character, and the two characters at the
    end of the basic plane, which are no characters, read as the replacement
    character. -/

namespace PoolWatch.Trade.Pattern

/-- Whether some ending of a text satisfies a test. -/
def anyTail (test : List Char → Bool) : List Char → Bool
  | [] => test []
  | c :: rest => test (c :: rest) || anyTail test rest

/-- Whether a text fits a pattern. -/
def fits : List Char → List Char → Bool
  | [], text => text.isEmpty
  | '%' :: pattern, text => anyTail (fits pattern) text
  | '_' :: pattern, text =>
    match text with
    | [] => false
    | _ :: rest => fits pattern rest
  | p :: pattern, text =>
    match text with
    | [] => false
    | c :: rest => Text.lowerChar p == Text.lowerChar c && fits pattern rest

/-- A character as patterns see it. -/
def seenAs (c : Char) : Char :=
  if c = '\uFFFE' ∨ c = '\uFFFF' then '\uFFFD' else c

/-- A text as patterns see it, up to its first zero character. -/
def visible (text : String) : List Char :=
  (text.toList.takeWhile (· ≠ '\x00')).map seenAs

/-- Whether a text fits a pattern. -/
def matches? (pattern text : String) : Bool :=
  fits (visible pattern) (visible text)

end PoolWatch.Trade.Pattern
