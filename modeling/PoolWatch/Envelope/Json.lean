import PoolWatch.Envelope.Basic
import PoolWatch.Json.Parser

/-! # The feed's JSON form

    Keys and data are base 58 texts.  The signature, the keys, the block
    hash and the instructions have to be there; everything else has a
    default. -/

namespace PoolWatch

/-- A key as its text. -/
def Key.ofJson? (j : Json) : Option Key :=
  j.text?.bind Key.parse?

/-- A key as its text. -/
def Key.toJson (k : Key) : Json :=
  .text k.text

/-- An owner: a missing, null or empty one is no owner. -/
def ownerOfJson? : Option Json → Option (Option Key)
  | none => some none
  | some .null => some none
  | some j =>
    match j.text? with
    | some "" => some none
    | some s => (Key.parse? s).map some
    | none => none

/-- An optional text: missing and null are none. -/
def optionalTextOfJson? : Option Json → Option (Option String)
  | none => some none
  | some .null => some none
  | some j => j.text?.map some

/-- A list of small numbers. -/
def indexesToJson (indexes : List UInt8) : Json :=
  .array (indexes.map fun i => .nat i.toNat)

namespace CompiledInstruction

/-- The names of the fields. -/
def fieldNames : List String := ["program_id_index", "accounts", "data"]

/-- Reads an instruction. -/
def ofJson? (j : Json) : Option CompiledInstruction := do
  let [some programIndex, some accounts, some data] ← j.fields? fieldNames | none
  pure
    { programIndex := ← programIndex.byte?
      accounts := ← accounts.list? Json.byte?
      data := ← data.text?.bind Text.Base58.decode? }

/-- Writes an instruction. -/
def toJson (ix : CompiledInstruction) : Json :=
  .record [("program_id_index", .nat ix.programIndex.toNat),
    ("accounts", indexesToJson ix.accounts),
    ("data", .text (Text.Base58.encode ix.data))]

end CompiledInstruction

namespace InnerInstructions

/-- The names of the fields. -/
def fieldNames : List String := ["index", "instructions"]

/-- Reads the instructions that one caused. -/
def ofJson? (j : Json) : Option InnerInstructions := do
  let [some index, some instructions] ← j.fields? fieldNames | none
  pure
    { index := ← index.byte?
      instructions := ← instructions.list? CompiledInstruction.ofJson? }

/-- Writes the instructions that one caused. -/
def toJson (inner : InnerInstructions) : Json :=
  .record [("index", .nat inner.index.toNat),
    ("instructions", .array (inner.instructions.map CompiledInstruction.toJson))]

end InnerInstructions

namespace TableLookup

/-- The names of the fields. -/
def fieldNames : List String := ["account_key", "writable_indexes", "readonly_indexes"]

/-- Reads the use of a table. -/
def ofJson? (j : Json) : Option TableLookup := do
  let [some table, some writable, some readonly] ← j.fields? fieldNames | none
  pure
    { table := ← Key.ofJson? table
      writable := ← writable.list? Json.byte?
      readonly := ← readonly.list? Json.byte? }

/-- Writes the use of a table. -/
def toJson (l : TableLookup) : Json :=
  .record [("account_key", l.table.toJson), ("writable_indexes", indexesToJson l.writable),
    ("readonly_indexes", indexesToJson l.readonly)]

end TableLookup

namespace TokenBalance

/-- The names of the fields. -/
def fieldNames : List String := ["account_index", "mint", "owner", "amount"]

/-- Reads a balance. -/
def ofJson? (j : Json) : Option TokenBalance := do
  let [some accountIndex, some mint, owner, some amount] ← j.fields? fieldNames | none
  pure
    { accountIndex := ← accountIndex.byte?
      mint := ← Key.ofJson? mint
      owner := ← ownerOfJson? owner
      amount := ← amount.text? }

/-- Writes a balance. -/
def toJson (b : TokenBalance) : Json :=
  .record [("account_index", .nat b.accountIndex.toNat), ("mint", b.mint.toJson),
    ("owner", (b.owner.map Key.toJson).getD .null), ("amount", .text b.amount)]

end TokenBalance

namespace Envelope

/-- The names of the fields. -/
def fieldNames : List String :=
  ["source", "signature", "account_keys", "recent_blockhash", "instructions",
    "inner_instructions", "address_table_lookups", "pre_token_balances",
    "post_token_balances", "compute_units_consumed", "slot", "error"]

/-- A field that may be missing. -/
def orDefault {α : Type} (default : α) (read : Json → Option α) : Option Json → Option α
  | none => some default
  | some j => read j

/-- Reads an envelope. -/
def ofJson? (j : Json) : Option Envelope := do
  let [source, some signature, some accountKeys, some recentBlockhash, some instructions,
    inner, lookups, pre, post, units, slot, error] ← j.fields? fieldNames | none
  pure
    { source := ← orDefault "" Json.text? source
      signature := ← signature.text?
      accountKeys := ← accountKeys.list? Key.ofJson?
      recentBlockhash := ← Key.ofJson? recentBlockhash
      instructions := ← instructions.list? CompiledInstruction.ofJson?
      innerInstructions := ← orDefault [] (Json.list? InnerInstructions.ofJson?) inner
      tableLookups := ← orDefault [] (Json.list? TableLookup.ofJson?) lookups
      preBalances := ← orDefault [] (Json.list? TokenBalance.ofJson?) pre
      postBalances := ← orDefault [] (Json.list? TokenBalance.ofJson?) post
      computeUnits := ← orDefault 0 Json.word64? units
      slot := ← orDefault 0 Json.word64? slot
      error := ← optionalTextOfJson? error }

/-- Writes an envelope, all its fields in order. -/
def toJson (e : Envelope) : Json :=
  .record [("source", .text e.source), ("signature", .text e.signature),
    ("account_keys", .array (e.accountKeys.map Key.toJson)),
    ("recent_blockhash", e.recentBlockhash.toJson),
    ("instructions", .array (e.instructions.map CompiledInstruction.toJson)),
    ("inner_instructions", .array (e.innerInstructions.map InnerInstructions.toJson)),
    ("address_table_lookups", .array (e.tableLookups.map TableLookup.toJson)),
    ("pre_token_balances", .array (e.preBalances.map TokenBalance.toJson)),
    ("post_token_balances", .array (e.postBalances.map TokenBalance.toJson)),
    ("compute_units_consumed", .nat e.computeUnits.toNat),
    ("slot", .nat e.slot.toNat),
    ("error", (e.error.map Json.text).getD .null)]

/-- The envelope a text writes. -/
def parse? (s : String) : Option Envelope :=
  (Json.parse? s).bind ofJson?

/-- The text of an envelope. -/
def print (e : Envelope) : String :=
  e.toJson.compact

end Envelope

end PoolWatch
