import PoolWatch.Envelope.Basic

/-! # Compiling messages

    A call names a program, the accounts it is given with what it may do to
    each, and its data.  It is what a transaction is made of before its
    accounts are numbered.

    A message names each key once and calls it by number.  Keys are sorted
    by what the calls may do with them, and among those by their bytes.
    Keys that neither sign nor are called may be moved into lookup tables.

    Numbers and table indexes are bytes; a message that would need more of
    either cannot be compiled. -/

namespace PoolWatch

/-! ## Calls -/

/-- An account given to a program. -/
structure AccountMeta where
  key : Key
  isSigner : Bool
  isWritable : Bool
  deriving DecidableEq

/-- An account that is only read. -/
def AccountMeta.readonly (key : Key) (isSigner : Bool) : AccountMeta :=
  ⟨key, isSigner, false⟩

/-- An account that may be changed. -/
def AccountMeta.writable (key : Key) (isSigner : Bool) : AccountMeta :=
  ⟨key, isSigner, true⟩

/-- One call of a program. -/
structure Call where
  program : Key
  accounts : List AccountMeta
  data : Bytes
  deriving DecidableEq

/-! ## Messages -/

/-- A table that a message may take entries from. -/
structure TableAccount where
  key : Key
  addresses : List Key
  deriving DecidableEq

/-- Why calls could not be compiled. -/
inductive CompileError where
  | accountIndexOverflow
  | tableIndexOverflow
  | unknownKey (key : Key)
  deriving DecidableEq

/-- What is wrong, as a sentence. -/
def CompileError.message : CompileError → String
  | .accountIndexOverflow => "account index overflowed during compilation"
  | .tableIndexOverflow => "address lookup table index overflowed during compilation"
  | .unknownKey key =>
    "encountered unknown account key `" ++ key.text ++ "` during instruction compilation"

/-- A compiled message. -/
structure Message where
  signers : UInt8
  readonlySigners : UInt8
  readonlyOthers : UInt8
  staticKeys : List Key
  blockhash : Key
  instructions : List CompiledInstruction
  lookups : List TableLookup
  deriving DecidableEq

namespace Message

/-! ## Privileges -/

/-- What the calls of a message do with one key. -/
structure Use where
  key : Key
  isSigner : Bool
  isWritable : Bool
  isInvoked : Bool
  deriving DecidableEq

/-- The union of two uses of the same key. -/
def Use.merge (u v : Use) : Use :=
  ⟨u.key, u.isSigner || v.isSigner, u.isWritable || v.isWritable, u.isInvoked || v.isInvoked⟩

/-- Adds a use to a list sorted by key. -/
def addUse (u : Use) : List Use → List Use
  | [] => [u]
  | v :: rest =>
    if u.key = v.key then v.merge u :: rest
    else if u.key.before v.key then u :: v :: rest
    else v :: addUse u rest

/-- The uses of one call. -/
def usesOfCall (c : Call) : List Use :=
  Use.mk c.program false false true ::
    c.accounts.map fun a => Use.mk a.key a.isSigner a.isWritable false

/-- What the calls and the payment of the fee do with each key, sorted by key. -/
def uses (payer : Key) (calls : List Call) : List Use :=
  (calls.flatMap usesOfCall ++ [Use.mk payer true true false]).foldl (fun us u => addUse u us) []

/-! ## Lookup tables -/

/-- Index of a key in a table, which has to be a byte. -/
def tableIndex? (addresses : List Key) (key : Key) : Except CompileError (Option UInt8) :=
  match addresses.idxOf? key with
  | none => .ok none
  | some i => if i < 256 then .ok (some (UInt8.ofNat i)) else .error .tableIndexOverflow

/-- The given keys that a table holds, with their indexes. -/
def drain (addresses : List Key) : List Key → Except CompileError (List (Key × UInt8))
  | [] => .ok []
  | key :: rest =>
    match tableIndex? addresses key with
    | .error e => .error e
    | .ok found =>
      match drain addresses rest with
      | .error e => .error e
      | .ok more =>
        match found with
        | some i => .ok ((key, i) :: more)
        | none => .ok more

/-- Keys that a table may hold: they neither sign nor are called. -/
def drainable (isWritable : Bool) (us : List Use) : List Key :=
  (us.filter fun u => !u.isSigner && !u.isInvoked && u.isWritable == isWritable).map Use.key

/-- The keys one table takes over: writable ones, then readonly ones. -/
structure Drained where
  writable : List (Key × UInt8)
  readonly : List (Key × UInt8)

/-- What a table takes over of the uses. -/
def drainTable (table : TableAccount) (us : List Use) : Except CompileError Drained :=
  match drain table.addresses (drainable true us) with
  | .error e => .error e
  | .ok writable =>
    match drain table.addresses (drainable false us) with
    | .error e => .error e
    | .ok readonly => .ok ⟨writable, readonly⟩

/-- Whether a key was taken over. -/
def Drained.holds (d : Drained) (key : Key) : Bool :=
  (d.writable ++ d.readonly).any fun (k, _) => k = key

/-- Takes keys over table by table.  A table that takes none is left out. -/
def drainTables : List TableAccount → List Use →
    Except CompileError (List (TableAccount × Drained) × List Use)
  | [], us => .ok ([], us)
  | table :: rest, us =>
    match drainTable table us with
    | .error e => .error e
    | .ok d =>
      match drainTables rest (us.filter fun u => !d.holds u.key) with
      | .error e => .error e
      | .ok (more, us) =>
        if d.writable.isEmpty && d.readonly.isEmpty then .ok (more, us)
        else .ok ((table, d) :: more, us)

/-- The part of a message that names a table's entries. -/
def lookupOf (table : TableAccount) (d : Drained) : TableLookup :=
  ⟨table.key, d.writable.map (·.2), d.readonly.map (·.2)⟩

/-! ## Numbering -/

/-- The static keys after the payer, of one kind. -/
def keysOfKind (isSigner isWritable : Bool) (us : List Use) : List Key :=
  (us.filter fun u => u.isSigner == isSigner && u.isWritable == isWritable).map Use.key

/-- A count as a byte. -/
def byte? (n : Nat) : Except CompileError UInt8 :=
  if n < 256 then .ok (UInt8.ofNat n) else .error .accountIndexOverflow

/-- The number of a key. -/
def number? (numbered : List Key) (key : Key) : Except CompileError UInt8 :=
  match numbered.idxOf? key with
  | some i => byte? i
  | none => .error (.unknownKey key)

/-- Each element in turn. -/
def mapAll {α β ε : Type} (f : α → Except ε β) : List α → Except ε (List β)
  | [] => .ok []
  | a :: rest =>
    match f a with
    | .error e => .error e
    | .ok b =>
      match mapAll f rest with
      | .error e => .error e
      | .ok bs => .ok (b :: bs)

/-- A call with its accounts numbered. -/
def compileCall (numbered : List Key) (c : Call) : Except CompileError CompiledInstruction :=
  match mapAll (fun a => number? numbered a.key) c.accounts with
  | .error e => .error e
  | .ok accounts =>
    match number? numbered c.program with
    | .error e => .error e
    | .ok program => .ok ⟨program, accounts, c.data⟩

/-- All keys in the order of their numbers: the static ones, then those taken
    from tables, the writable ones of all tables before the readonly ones. -/
def numbering (static : List Key) (drained : List (TableAccount × Drained)) : List Key :=
  static ++ drained.flatMap (fun (_, d) => d.writable.map (·.1)) ++
    drained.flatMap (fun (_, d) => d.readonly.map (·.1))

/-- Compiles the calls that `payer` pays for. -/
def compile (payer : Key) (calls : List Call) (tables : List TableAccount) (blockhash : Key) :
    Except CompileError Message :=
  match drainTables tables (uses payer calls) with
  | .error e => .error e
  | .ok (drained, left) =>
    let others := left.filter fun u => u.key ≠ payer
    let writableSigners := payer :: keysOfKind true true others
    let readonlySigners := keysOfKind true false others
    let writableOthers := keysOfKind false true others
    let readonlyOthers := keysOfKind false false others
    let static := writableSigners ++ readonlySigners ++ writableOthers ++ readonlyOthers
    let numbered := numbering static drained
    match byte? (writableSigners.length + readonlySigners.length),
        byte? readonlySigners.length, byte? readonlyOthers.length with
    | .ok s, .ok rs, .ok ro =>
      if 256 < numbered.length then .error .accountIndexOverflow
      else
        match mapAll (compileCall numbered) calls with
        | .error e => .error e
        | .ok instructions =>
          .ok ⟨s, rs, ro, static, blockhash, instructions,
            drained.map fun (table, d) => lookupOf table d⟩
    | _, _, _ => .error .accountIndexOverflow

end Message

end PoolWatch
