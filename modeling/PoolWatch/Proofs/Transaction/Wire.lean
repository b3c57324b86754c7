import PoolWatch.Proofs.Bytes
import PoolWatch.Proofs.Curve.Signature
import PoolWatch.Proofs.Transaction.Compiles

/-! # Reading transactions off the wire

    What the bytes of a message carry is what a reader takes off them.  The
    reader here knows nothing of how messages are compiled: it takes a length
    in groups of seven bits, and then as many things as the length says; a
    message has to be read to its end.

    A message is read back if none of its lists is longer than three groups
    can say (`read?_encode`), and a transaction is read back with its
    signatures (`decode?_encode`). -/

namespace PoolWatch

namespace Wire

/-! ## Readers -/

/-- Takes a value off the front of some bytes. -/
abbrev Reader := StateT Bytes Option

/-- One byte. -/
def byte : Reader UInt8 := fun
  | [] => none
  | b :: rest => some (b, rest)

/-- As many bytes as are asked for. -/
def bytes (count : Nat) : Reader Bytes := fun data =>
  if data.length < count then none else some (data.take count, data.drop count)

/-- The 32 bytes of a key. -/
def key : Reader Key := do
  Key.ofBytes? (← bytes 32)

/-- A length. -/
def length : Reader Nat :=
  Transaction.readLength 3

/-- As many values as are asked for, one after the other. -/
def many {α : Type} (read : Reader α) : Nat → Reader (List α)
  | 0 => pure []
  | count + 1 => do
    let a ← read
    let rest ← many read count
    pure (a :: rest)

/-- The values of a list, after its length. -/
def list {α : Type} (read : Reader α) : Reader (List α) := do
  many read (← length)

/-- An instruction. -/
def instruction : Reader CompiledInstruction := do
  let programIndex ← byte
  let accounts ← list byte
  let data ← list byte
  pure ⟨programIndex, accounts, data⟩

/-- The use of a table. -/
def lookup : Reader TableLookup := do
  let table ← key
  let writable ← list byte
  let readonly ← list byte
  pure ⟨table, writable, readonly⟩

/-- A message of version zero. -/
def message : Reader Message := do
  let version ← byte
  guard (version = Message.versionByte)
  let signers ← byte
  let readonlySigners ← byte
  let readonlyOthers ← byte
  let staticKeys ← list key
  let blockhash ← key
  let instructions ← list instruction
  let lookups ← list lookup
  pure ⟨signers, readonlySigners, readonlyOthers, staticKeys, blockhash, instructions, lookups⟩

/-! ## What readers take -/

/-- From the written bytes, whatever follows them, the reader takes the value
    and nothing else. -/
def Takes {α : Type} (read : Reader α) (written : Bytes) (a : α) : Prop :=
  ∀ rest, read (written ++ rest) = some (a, rest)

section Takes

variable {α β : Type} {read : Reader α} {next : α → Reader β} {written more : Bytes} {a : α}
  {b : β}

theorem takes_pure (a : α) : Takes (pure a) [] a := fun _ => rfl

theorem Takes.bind (h : Takes read written a) (hnext : Takes (next a) more b) :
    Takes (read >>= next) (written ++ more) b := by
  intro rest
  show (read (written ++ more ++ rest)).bind (fun x => next x.1 x.2) = _
  rw [List.append_assoc, h, Option.bind_some]
  exact hnext rest

/-- The last value of several is made into one of them all. -/
theorem Takes.map (h : Takes read written a) (f : α → β) :
    Takes (read >>= fun a => pure (f a)) written (f a) := by
  rw [← List.append_nil written]
  exact h.bind (takes_pure (f a))

theorem takes_guard {p : Prop} [Decidable p] (h : p) : Takes (guard p) [] () := by
  rw [guard, if_pos h]
  exact takes_pure ()

theorem takes_byte (b : UInt8) : Takes byte [b] b := fun _ => rfl

theorem takes_bytes (data : Bytes) : Takes (bytes data.length) data data := by
  intro rest
  have hlong : ¬ (data ++ rest).length < data.length := by
    rw [List.length_append]
    omega
  unfold bytes
  rw [if_neg hlong, List.take_left, List.drop_left]

theorem takes_key (k : Key) : Takes key k.bytes k := by
  have hbytes : Takes (bytes 32) k.bytes k.bytes := k.size ▸ takes_bytes k.bytes
  rw [← List.append_nil k.bytes]
  refine hbytes.bind fun rest => ?_
  unfold Key.ofBytes?
  rw [dif_pos k.size]
  rfl

/-! ## Lists -/

/-- How many lengths some groups can say. -/
def lengths : Nat → Nat
  | 0 => 1
  | groups + 1 => 128 * lengths groups

/-- A length below 128 is its one byte, whatever number of groups may come. -/
theorem readLength_single {n : Nat} (h : n < 128) (groups : Nat) (rest : Bytes) :
    Transaction.readLength (groups + 1) (compactLength (groups + 1) n ++ rest) =
      some (n, rest) := by
  have hbyte : (UInt8.ofNat n).toNat = n := by
    rw [UInt8.toNat_ofNat']
    omega
  have hlow : UInt8.ofNat n < 128 := by
    rw [UInt8.lt_iff_toNat_lt, hbyte]
    exact h
  rw [compactLength, if_pos h, List.singleton_append, Transaction.readLength, if_pos hlow, hbyte]

/-- A length is read back if its groups can say it. -/
theorem readLength_compactLength {groups n : Nat} (h : n < lengths (groups + 1)) (rest : Bytes) :
    Transaction.readLength (groups + 1) (compactLength (groups + 1) n ++ rest) =
      some (n, rest) := by
  induction groups generalizing n with
  | zero => exact readLength_single h 0 rest
  | succ groups ih =>
    by_cases hsmall : n < 128
    · exact readLength_single hsmall _ rest
    · -- the lowest group is marked, and the others say how often it was exceeded
      have hhigh : n / 128 < lengths (groups + 1) := Nat.div_lt_of_lt_mul h
      have hbyte : (UInt8.ofNat (n % 128 + 128)).toNat = n % 128 + 128 := by
        rw [UInt8.toNat_ofNat']
        omega
      have hmarked : ¬ UInt8.ofNat (n % 128 + 128) < 128 := by
        rw [UInt8.lt_iff_toNat_lt, hbyte]
        exact Nat.not_lt.2 (Nat.le_add_left ..)
      have hsum : n % 128 + 128 - 128 + 128 * (n / 128) = n := by omega
      rw [compactLength, if_neg hsmall, List.cons_append, Transaction.readLength, if_neg hmarked,
        ih hhigh, hbyte]
      simp only [Option.bind_eq_bind, Option.bind_some, Option.pure_def, hsum]

/-- A list is short if three groups can say its length. -/
def IsShort {α : Type} (items : List α) : Prop :=
  items.length < lengths 3

theorem isShort_of_le {α : Type} {items : List α} (h : items.length ≤ 256) : IsShort items :=
  Nat.lt_of_le_of_lt h (by decide)

theorem takes_length {items : List α} (h : IsShort items) :
    Takes length (compactLength 3 items.length) items.length :=
  readLength_compactLength h

/-- Several values are taken if each of them is. -/
theorem takes_many {write : α → Bytes} {items : List α}
    (h : ∀ a ∈ items, Takes read (write a) a) :
    Takes (many read items.length) (items.map write).flatten items := by
  induction items with
  | nil => exact takes_pure []
  | cons a items ih =>
    have hitems := ih fun a ha => h a (List.mem_cons_of_mem _ ha)
    rw [List.map_cons, List.flatten_cons]
    exact (h a (List.mem_cons_self ..)).bind (hitems.map (a :: ·))

theorem takes_list {write : α → Bytes} {items : List α} (hshort : IsShort items)
    (h : ∀ a ∈ items, Takes read (write a) a) :
    Takes (list read) (compactList (items.map write)) items := by
  unfold compactList
  rw [List.length_map]
  exact (takes_length hshort).bind (takes_many h)

theorem takes_compactBytes {data : Bytes} (h : IsShort data) :
    Takes (list byte) (compactBytes data) data := by
  have hlist := takes_list h fun b (_ : b ∈ data) => takes_byte b
  unfold compactList at hlist
  rwa [List.length_map, ← List.flatMap_def, List.flatMap_singleton'] at hlist

end Takes

/-! ## Messages -/

theorem takes_instruction {ix : CompiledInstruction} (haccounts : IsShort ix.accounts)
    (hdata : IsShort ix.data) : Takes instruction (Message.encodeInstruction ix) ix := by
  refine (takes_byte ix.programIndex).bind ?_
  refine (takes_compactBytes haccounts).bind ?_
  exact (takes_compactBytes hdata).map _

theorem takes_lookup {l : TableLookup} (hwritable : IsShort l.writable)
    (hreadonly : IsShort l.readonly) : Takes lookup (Message.encodeLookup l) l := by
  unfold Message.encodeLookup
  rw [List.append_assoc]
  refine (takes_key l.table).bind ?_
  refine (takes_compactBytes hwritable).bind ?_
  exact (takes_compactBytes hreadonly).map _

end Wire

namespace Message

/-- None of a message's lists is longer than its length can say. -/
structure IsShort (m : Message) : Prop where
  staticKeys : Wire.IsShort m.staticKeys
  instructions : Wire.IsShort m.instructions
  lookups : Wire.IsShort m.lookups
  instruction : ∀ ix ∈ m.instructions, Wire.IsShort ix.accounts ∧ Wire.IsShort ix.data
  lookup : ∀ l ∈ m.lookups, Wire.IsShort l.writable ∧ Wire.IsShort l.readonly

variable {m : Message}

theorem takes_encode (h : m.IsShort) : Wire.Takes Wire.message m.encode m := by
  have hkeys := Wire.takes_list h.staticKeys fun k _ => Wire.takes_key k
  have hinstructions := Wire.takes_list h.instructions fun ix hix =>
    Wire.takes_instruction (h.instruction ix hix).1 (h.instruction ix hix).2
  have hlookups := Wire.takes_list h.lookups fun l hl =>
    Wire.takes_lookup (h.lookup l hl).1 (h.lookup l hl).2
  unfold encode
  simp only [List.append_assoc]
  -- field by field, after the version
  refine (Wire.takes_byte versionByte).bind ?_
  refine Wire.Takes.bind (Wire.takes_guard rfl) ?_
  refine (Wire.takes_byte m.signers).bind ?_
  refine (Wire.takes_byte m.readonlySigners).bind ?_
  refine (Wire.takes_byte m.readonlyOthers).bind ?_
  refine hkeys.bind ?_
  refine (Wire.takes_key m.blockhash).bind ?_
  refine hinstructions.bind ?_
  exact hlookups.map _

/-- The message that some bytes write, if nothing else follows it. -/
def read? (bytes : Bytes) : Option Message :=
  match Wire.message bytes with
  | some (m, []) => some m
  | _ => none

theorem read?_encode (h : m.IsShort) : read? m.encode = some m := by
  have htakes := takes_encode h []
  rw [List.append_nil] at htakes
  unfold read?
  rw [htakes]

/-! ## Compiled messages -/

section Compiled

variable {payer blockhash : Key} {calls : List Call} {table : Option TableAccount}

/-- What the calls name bounds how many of them there are. -/
theorem length_calls_le (calls : List Call) :
    calls.length ≤ (calls.flatMap usesOfCall).length := by
  induction calls with
  | nil => exact Nat.le_refl _
  | cons c calls ih =>
    simp only [List.flatMap_cons, List.length_append, List.length_cons, usesOfCall]
    omega

theorem length_accounts_le {c : Call} (hc : c ∈ calls) :
    c.accounts.length ≤ (calls.flatMap usesOfCall).length := by
  have huses : (usesOfCall c).length ≤ (calls.flatMap usesOfCall).length :=
    (List.sublist_flatten_of_mem (List.mem_map_of_mem hc)).length_le
  refine Nat.le_trans ?_ huses
  simp [usesOfCall]

/-- Each number that a table gives is one of all the keys. -/
theorem length_taken_le {drained : List (TableAccount × Drained)} {x : TableAccount × Drained}
    (hx : x ∈ drained) (static : List Key) :
    x.2.writable.length ≤ (numbering static drained).length ∧
      x.2.readonly.length ≤ (numbering static drained).length := by
  have hpart (keys : TableAccount × Drained → List Key) :
      (keys x).length ≤ (drained.flatMap keys).length :=
    (List.sublist_flatten_of_mem (List.mem_map_of_mem hx)).length_le
  have hwritable := hpart fun x => x.2.writable.map (·.1)
  have hreadonly := hpart fun x => x.2.readonly.map (·.1)
  have hnumbering : numbering static drained = static ++
      drained.flatMap (fun x => x.2.writable.map (·.1)) ++
      drained.flatMap fun x => x.2.readonly.map (·.1) := rfl
  rw [List.length_map] at hwritable hreadonly
  rw [hnumbering, List.length_append, List.length_append]
  omega

/-- A message of few calls, each with little data, is short: its keys have
    numbers that are bytes. -/
theorem isShort_compile (h : compile payer calls table.toList blockhash = .ok m)
    (huses : (calls.flatMap usesOfCall).length < 254)
    (hdata : ∀ c ∈ calls, Wire.IsShort c.data) : m.IsShort := by
  obtain ⟨drained, left, htaken, -, hlookups, hnumbered, hfew, -⟩ := compile_eq_ok h
  have hstatic : m.staticKeys.length ≤ (numbering m.staticKeys drained).length := by
    simp only [numbering, List.length_append]
    omega
  have htables : drained.length ≤ table.toList.length := htaken.length_le
  have hone : table.toList.length ≤ 1 := by cases table <;> simp
  have hcalls : m.instructions.length = calls.length := hnumbered.length_eq
  have hnamed := length_calls_le calls
  refine ⟨Wire.isShort_of_le (by omega), Wire.isShort_of_le (by omega), ?_, ?_, ?_⟩
  · rw [hlookups]
    exact Wire.isShort_of_le (by rw [List.length_map]; omega)
  · intro ix hix
    obtain ⟨i, hi, rfl⟩ := List.getElem_of_mem hix
    have hi' : i < calls.length := hcalls ▸ hi
    have hnumber := (List.forall₂_iff_get.1 hnumbered).2 i hi hi'
    have haccounts := length_accounts_le (List.get_mem calls ⟨i, hi'⟩)
    refine ⟨Wire.isShort_of_le (hnumber.accounts.length_eq ▸ by omega), ?_⟩
    exact hnumber.data ▸ hdata _ (List.get_mem calls ⟨i, hi'⟩)
  · rw [hlookups]
    intro l hl
    obtain ⟨x, hx, rfl⟩ := List.mem_map.1 hl
    obtain ⟨hwritable, hreadonly⟩ := length_taken_le hx m.staticKeys
    constructor
    · exact Wire.isShort_of_le (by rw [lookupOf, List.length_map]; omega)
    · exact Wire.isShort_of_le (by rw [lookupOf, List.length_map]; omega)

end Compiled

end Message

/-! ## Transactions -/

namespace Transaction

variable {t : Transaction}

theorem readSignatures_eq (count : Nat) :
    readSignatures count = Wire.many (Wire.bytes 64) count := by
  induction count with
  | zero => rfl
  | succ count ih =>
    funext data
    unfold readSignatures
    rw [ih]
    show _ = (Wire.bytes 64 data).bind _
    unfold Wire.bytes
    split <;> rfl

theorem decode?_eq (data : Bytes) :
    decode? data = (Wire.list (Wire.bytes 64) data).map fun x => ⟨x.1, x.2⟩ := by
  unfold decode?
  simp only [readSignatures_eq]
  show _ = Option.map _ ((readLength 3 data).bind fun x => Wire.many (Wire.bytes 64) x.1 x.2)
  cases readLength 3 data with
  | none => rfl
  | some x => cases hmany : Wire.many (Wire.bytes 64) x.1 x.2 <;> simp [hmany]

/-- A transaction is read back from its bytes. -/
theorem decode?_encode (hcount : Wire.IsShort t.signatures)
    (hsize : ∀ s ∈ t.signatures, s.length = 64) : decode? t.encode = some t := by
  have hsignatures := Wire.takes_list hcount fun s hs => hsize s hs ▸ Wire.takes_bytes s
  rw [List.map_id'] at hsignatures
  rw [decode?_eq, encode, hsignatures t.message]
  rfl

/-- So is one with the signature of its payer alone. -/
theorem decode?_signed (seed : Bytes) (m : Message) :
    decode? (signed seed m).encode = some (signed seed m) := by
  have hone : Wire.IsShort (signed seed m).signatures := Wire.isShort_of_le (Nat.le_add_left ..)
  refine decode?_encode hone fun s hs => ?_
  obtain rfl := List.mem_singleton.1 hs
  exact Curve.length_sign seed m.encode

theorem bytes_keyOfSeed (seed : Bytes) : (keyOfSeed seed).bytes = Curve.publicKey seed := by
  have hlength : (Curve.publicKey seed).length = 32 := Curve.Point.length_encode _
  have hwindow := window_eq_take (Nat.le_of_eq ((Nat.zero_add 32).trans hlength.symm))
  rwa [List.drop_zero, List.take_of_length_le (Nat.le_of_eq hlength)] at hwindow

/-- Its signature verifies under the payer's key, unless the nonce is zero. -/
theorem verify_signed (seed : Bytes) (m : Message) :
    (signed seed m).verify [keyOfSeed seed] = [decide (Curve.nonce seed m.encode ≠ 0)] := by
  rw [← Curve.verify_sign, ← bytes_keyOfSeed]
  rfl

end Transaction

/-! ## Swaps -/

/-- The message of a swap is read back from its bytes. -/
theorem Swap.read?_message {payer native blockhash : Key} {options : SwapOptions}
    {order : SwapOrder} {channel : Channel} {m : Message}
    (h : message payer native options order channel blockhash = .ok m) :
    Message.read? m.encode = some m := by
  obtain ⟨calls, hcalls, hcompile⟩ := message_eq_ok h
  refine Message.read?_encode (Message.isShort_compile hcompile (length_uses_calls hcalls) ?_)
  intro c hc
  exact Wire.isShort_of_le (Nat.le_trans (length_data_le hcalls hc) (by decide))

end PoolWatch
