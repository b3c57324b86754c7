import PoolWatch.Registry.Basic

/-! # Account addresses

    A compiled message numbers its accounts: first its static keys, then the
    entries it takes from lookup tables, table by table and within a table
    the writable ones before the readonly ones.  Resolving turns a number
    back into a key. -/

namespace PoolWatch

/-- One entry of a lookup table. -/
structure TableEntry where
  table : Key
  index : UInt8
  deriving DecidableEq

/-- The table entries of a message in the order of their numbers. -/
def flattenLookups (lookups : List TableLookup) : List TableEntry :=
  lookups.flatMap fun l => (l.writable ++ l.readonly).map fun i => ⟨l.table, i⟩

namespace Registry

/-- The key behind an account number. -/
def resolveIndex (static : List Key) (lookups : List TableLookup) (index : Nat) :
    RegistryM ResolveError Key := do
  match static[index]? with
  | some key => pure key
  | none =>
    let entries := flattenLookups lookups
    match entries[index - static.length]? with
    | none => throw (.indexOutOfRange index (static.length + entries.length))
    | some entry =>
      let table ← lookupTable entry.table
      match table.addresses[entry.index.toNat]? with
      | some key => pure key
      | none => throw (.indexOutOfRange entry.index.toNat table.addresses.length)

/-- The key behind a position in an instruction's account list. -/
def resolve (e : Envelope) (ix : CompiledInstruction) (position : Nat) :
    RegistryM ResolveError Key := do
  if ix.accounts.isEmpty then
    throw .noAccountIndexes
  match ix.accounts[position]? with
  | none => throw (.indexOutOfRange position ix.accounts.length)
  | some index => resolveIndex e.accountKeys e.tableLookups index.toNat

end Registry

end PoolWatch
