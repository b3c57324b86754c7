import PoolWatch.Json.Token
import PoolWatch.Json.Printer
import PoolWatch.Text.Utf8

/-! # Reading JSON

    Words are taken one by one by a machine that remembers the containers
    still open.  A text is a document when the machine ends with no open
    container and exactly one value.

    A document may also be read off bytes that are no text, as long as all
    that is not text is inside of strings.  Such a string spells no text
    then, as one with half of a surrogate pair does not. -/

namespace PoolWatch

namespace Json

/-- A container that is still open, with what it holds so far, newest first. -/
inductive Frame where
  | items (rev : List Json)
  | members (rev : List (Option String × Json)) (key : Option String)
  deriving Repr

/-- Where in the grammar the machine stands.  A container that was just
    opened may be closed at once. -/
inductive Position where
  | value (opened : List Frame) (fresh : Bool)
  | name (opened : List Frame) (rev : List (Option String × Json)) (fresh : Bool)
  | colon (opened : List Frame) (rev : List (Option String × Json)) (key : Option String)
  | after (opened : List Frame) (value : Json)
  deriving Repr

/-- Takes one word; nothing when the grammar has no such word here. -/
def Position.step : Position → Token → Option Position
  | .value opened fresh, token =>
    match token with
    | .null => some (.after opened .null)
    | .bool b => some (.after opened (.bool b))
    | .number n => some (.after opened (.number n))
    | .string s => some (.after opened (.string s))
    | .openArray => some (.value (.items [] :: opened) true)
    | .openObject => some (.name opened [] true)
    | .closeArray =>
      match fresh, opened with
      | true, .items _ :: outer => some (.after outer (.array []))
      | _, _ => none
    | _ => none
  | .name opened rev fresh, token =>
    match token with
    | .string s => some (.colon opened rev s)
    | .closeObject => if fresh then some (.after opened (.object [])) else none
    | _ => none
  | .colon opened rev key, .colon => some (.value (.members rev key :: opened) false)
  | .after (.items rev :: outer) v, .comma => some (.value (.items (v :: rev) :: outer) false)
  | .after (.items rev :: outer) v, .closeArray =>
    some (.after outer (.array (v :: rev).reverse))
  | .after (.members rev key :: outer) v, .comma => some (.name outer ((key, v) :: rev) false)
  | .after (.members rev key :: outer) v, .closeObject =>
    some (.after outer (.object ((key, v) :: rev).reverse))
  | _, _ => none

/-- Takes the words of a list in turn. -/
def Position.run (p : Position) : List Token → Option Position
  | [] => some p
  | token :: rest => (p.step token).bind fun p => p.run rest

/-- The document that some words write. -/
def parseTokens? (tokens : List Token) : Option Json := do
  match ← Position.run (.value [] false) tokens with
  | .after [] v => pure v
  | _ => none

/-- The document a text writes. -/
def parseChars? (cs : List Char) : Option Json :=
  (tokens? cs).bind parseTokens?

/-- The document a text writes. -/
def parse? (s : String) : Option Json :=
  parseChars? s.toList

/-- The general value a text writes. -/
def parseValue? (s : String) : Option Json :=
  (parse? s).bind (canonical? maxDepth)

/-! ## Bytes -/

/-- What two readings of the same word agree on. -/
def Token.agreed : Token → Token → Token
  | .string s, .string s' => .string (if s = s' then s else none)
  | token, _ => token

/-- The words of some bytes.  They are read twice, with two marks that stand
    in no word but a string, so that a string is read differently when it has
    a mark in it. -/
def tokensOfBytes? (bytes : Bytes) : Option (List Token) := do
  let tokens ← tokens? (Text.Utf8.lenientChars Text.Utf8.replacement bytes)
  let others ← tokens? (Text.Utf8.lenientChars '?' bytes)
  pure (List.zipWith Token.agreed tokens others)

/-- The document that some bytes write. -/
def parseBytes? (bytes : Bytes) : Option Json :=
  (tokensOfBytes? bytes).bind parseTokens?

end Json

end PoolWatch
