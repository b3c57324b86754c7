import PoolWatch.Text.Blank

/-! # Channels

    The ways a transaction can be sent: straight to a node, to the block
    engine, or to the paid relay.  Each has a name and an alias, read in
    any letter case. -/

namespace PoolWatch

/-- A way to send a transaction. -/
inductive Channel where
  | direct
  | blockEngine
  | paidRelay
  deriving DecidableEq, Repr

namespace Channel

/-- The name of a channel. -/
def name : Channel → String
  | .direct => "rpc"
  | .blockEngine => "jito"
  | .paidRelay => "bloxroute"

/-- The channel of a name or alias in small letters. -/
def ofLower? : String → Option Channel
  | "rpc" => some .direct
  | "direct" => some .direct
  | "jito" => some .blockEngine
  | "bundle" => some .blockEngine
  | "bloxroute" => some .paidRelay
  | "relay" => some .paidRelay
  | _ => none

/-- The channel of one item; an unknown one is told in small letters. -/
def parse (item : List Char) : Except String Channel :=
  let text := String.ofList (Text.lowerChars item)
  match ofLower? text with
  | some c => .ok c
  | none => .error text

/-- The items of a list between commas, without blanks around them and
    without empty ones. -/
def items (list : String) : List (List Char) :=
  ((Text.splitChars ',' list.toList).map Text.trimChars).filter fun item => !item.isEmpty

/-- The channels of a comma-separated list; the first unknown one refuses it. -/
def parseItems : List (List Char) → Except String (List Channel)
  | [] => .ok []
  | item :: rest =>
    match parse item with
    | .error e => .error e
    | .ok c =>
      match parseItems rest with
      | .error e => .error e
      | .ok cs => .ok (c :: cs)

/-- The channels of a comma-separated list. -/
def parseList (list : String) : Except String (List Channel) :=
  parseItems (items list)

/-- The refusal of an item that names no channel. -/
def unknownMessage (item : String) : String :=
  "unknown submission channel " ++ item

end Channel

end PoolWatch
