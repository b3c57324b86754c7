import PoolWatch.Json.Parser

/-! # The store

    A two-level map: under each key a hash of fields, in each field a text.
    A key whose last field is deleted goes away with it.

    Records are kept as JSON texts; one that no longer reads is reported
    and left as it is. -/

namespace PoolWatch

/-! ## Association lists -/

/-- The value under a key. -/
def assocGet? {β : Type} (key : String) : List (String × β) → Option β
  | [] => none
  | (k, v) :: rest => if k = key then some v else assocGet? key rest

/-- The value under a key replaced, or added at the end. -/
def assocPut {β : Type} (key : String) (value : β) : List (String × β) → List (String × β)
  | [] => [(key, value)]
  | (k, v) :: rest =>
    if k = key then (key, value) :: rest else (k, v) :: assocPut key value rest

/-- Everything but what is under a key. -/
def assocErase {β : Type} (key : String) : List (String × β) → List (String × β)
  | [] => []
  | (k, v) :: rest => if k = key then assocErase key rest else (k, v) :: assocErase key rest

/-! ## The map -/

/-- The fields kept under one key. -/
abbrev FieldMap := List (String × String)

/-- Hashes of fields by key. -/
structure Store where
  hashes : List (String × FieldMap)
  deriving DecidableEq, Repr

namespace Store

/-- Nothing stored. -/
def empty : Store := ⟨[]⟩

/-- The text at a key and field. -/
def get? (s : Store) (key field : String) : Option String :=
  (assocGet? key s.hashes).bind (assocGet? field)

/-- Writes a text at a key and field. -/
def set (s : Store) (key field value : String) : Store :=
  ⟨assocPut key (assocPut field value ((assocGet? key s.hashes).getD [])) s.hashes⟩

/-- Deletes the text at a key and field, and the key with its last field. -/
def erase (s : Store) (key field : String) : Store :=
  match assocGet? key s.hashes with
  | none => s
  | some fields =>
    match assocErase field fields with
    | [] => ⟨assocErase key s.hashes⟩
    | rest => ⟨assocPut key rest s.hashes⟩

/-- The keys that have a field. -/
def keysWith (s : Store) (field : String) : List String :=
  s.hashes.filterMap fun (key, fields) =>
    if (assocGet? field fields).isSome then some key else none

/-! ## Records -/

/-- The fields that records are kept in. -/
inductive Field where
  | poolKeys
  | lookupTable
  | tracker
  | ledger
  deriving DecidableEq, Repr

/-- The name of a field. -/
def Field.name : Field → String
  | .poolKeys => "storage::pool_keys"
  | .lookupTable => "storage::lookup"
  | .tracker => "storage::tracked_amm"
  | .ledger => "storage::chunk"

end Store

/-- Why the store refused: a text does not read as the record it stands for. -/
inductive StoreError where
  | malformed
  deriving DecidableEq, Repr

/-- What is wrong, up to the detail that the JSON reader adds. -/
def StoreError.message : StoreError → String
  | .malformed => "json"

namespace Store

/-- Reads the record at a key. -/
def record? {α : Type} (read : Json → Option α) (s : Store) (key : String) (field : Field) :
    Except StoreError (Option α) :=
  match s.get? key field.name with
  | none => .ok none
  | some text =>
    match (Json.parse? text).bind read with
    | some a => .ok (some a)
    | none => .error .malformed

/-- Writes a record at a key. -/
def putRecord (s : Store) (key : String) (field : Field) (record : Json) : Store :=
  s.set key field.name record.compact

/-- Deletes the record at a key. -/
def eraseRecord (s : Store) (key : String) (field : Field) : Store :=
  s.erase key field.name

end Store

end PoolWatch
