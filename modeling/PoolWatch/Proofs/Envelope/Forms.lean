import PoolWatch.Envelope.Json
import PoolWatch.Proofs.Store.Records

/-! # The forms of an envelope

    A feed may write an envelope in many ways: the fields of a record in any
    order and among others, fields that hold their default left out, no owner
    as a missing, a null or an empty one.  Here is said which documents are
    forms of a record, field by field, and each of them reads as the record
    (`ofJson?_of_isForm`).  What the printer writes is one of them
    (`isForm_toJson`). -/

namespace PoolWatch

@[simp] theorem Key.ofJson?_toJson (k : Key) : Key.ofJson? k.toJson = some k :=
  k.parse?_text

namespace Json

/-! ## Objects by their names -/

/-- An object whose members have different names, by what stands under each name. -/
def Holds (j : Json) (under : String → Option Json) : Prop :=
  ∃ members : List (String × Json), j = record members ∧ (members.map Prod.fst).Nodup ∧
    ∀ name, under name = members.lookup name

theorem holds_record {members : List (String × Json)} (names : List String)
    (hnames : members.map Prod.fst = names) (hnd : names.Nodup) :
    (record members).Holds fun name => members.lookup name :=
  ⟨members, rfl, hnames ▸ hnd, fun _ => rfl⟩

theorem lookup_mem {members : List (String × Json)} {name : String} {value : Json}
    (h : members.lookup name = some value) : (name, value) ∈ members := by
  induction members with
  | nil => cases h
  | cons m rest ih =>
    rw [List.lookup_cons] at h
    split at h
    · next hname =>
      obtain rfl := Option.some.inj h
      rw [eq_of_beq hname]
      exact List.mem_cons_self ..
    · exact List.mem_cons_of_mem m (ih h)

theorem not_mem_of_lookup {members : List (String × Json)} {name : String}
    (h : members.lookup name = none) : ∀ m ∈ members, m.1 ≠ name := by
  intro m hm hname
  rw [List.lookup_eq_none_iff] at h
  exact absurd (h m hm) (by simp [hname])

/-- The fields of a record are what stands under their names, in whatever
    order, and other members are passed over. -/
theorem Holds.fields? {j : Json} {under : String → Option Json} (h : j.Holds under)
    (names : List String) : j.fields? names = some (names.map under) := by
  obtain ⟨members, rfl, hnd, hunder⟩ := h
  have htexts : (members.map fun m => (some m.1, m.2)).any (fun m => m.1.isNone) = false := by
    rw [List.any_eq_false]
    intro m hm
    obtain ⟨m', -, rfl⟩ := List.mem_map.1 hm
    simp
  unfold record Json.fields?
  simp only [htexts, Bool.false_eq_true, if_false]
  apply mapM_eq_some_map
  intro name _
  rw [hunder]
  cases hlookup : members.lookup name with
  | none =>
    -- no member has the name
    have hnone :
        (members.map fun m => (some m.1, m.2)).filter (fun n => n.1 == some name) = [] := by
      rw [List.filter_eq_nil_iff]
      intro n hn
      obtain ⟨m, hm, rfl⟩ := List.mem_map.1 hn
      simpa using not_mem_of_lookup hlookup m hm
    rw [hnone]
  | some value => rw [filter_name hnd (lookup_mem hlookup)]

/-! ## Forms of single fields -/

/-- A list of forms. -/
def ListForm {α : Type} (Form : α → Json → Prop) (l : List α) (j : Json) : Prop :=
  ∃ items, j = .array items ∧ List.Forall₂ Form l items

/-- A field that may be left out when it holds its default. -/
inductive FieldForm {α : Type} (default : α) (Form : α → Json → Prop) : α → Option Json → Prop where
  | missing : FieldForm default Form default none
  | found {a : α} {j : Json} : Form a j → FieldForm default Form a (some j)

/-- An optional text: null and a missing field are none. -/
inductive TextForm : Option String → Option Json → Prop where
  | missing : TextForm none none
  | null : TextForm none (some .null)
  | text (s : String) : TextForm (some s) (some (.text s))

/-- An owner: a missing field, null and the empty text are none. -/
inductive OwnerForm : Option Key → Option Json → Prop where
  | missing : OwnerForm none none
  | null : OwnerForm none (some .null)
  | empty : OwnerForm none (some (.text ""))
  | key (k : Key) : OwnerForm (some k) (some k.toJson)

section Fields

variable {α : Type} {Form : α → Json → Prop} {item? : Json → Option α} {write : α → Json}

theorem ListForm.list? {l : List α} {j : Json} (h : ListForm Form l j)
    (hread : ∀ {a j}, Form a j → item? j = some a) : j.list? item? = some l := by
  obtain ⟨items, rfl, hitems⟩ := h
  have hall : items.mapM item? = some l := by
    induction hitems with
    | nil => rfl
    | cons hfirst _ ih => simp [List.mapM_cons, hread hfirst, ih]
  exact hall

theorem listForm_map (hwrite : ∀ a, Form a (write a)) (l : List α) :
    ListForm Form l (.array (l.map write)) := by
  refine ⟨_, rfl, ?_⟩
  induction l with
  | nil => exact .nil
  | cons a l ih => exact .cons (hwrite a) ih

theorem FieldForm.orDefault {default a : α} {found : Option Json}
    (h : FieldForm default Form a found) (hread : ∀ {a j}, Form a j → item? j = some a) :
    Envelope.orDefault default item? found = some a := by
  cases h with
  | missing => rfl
  | found hform => exact hread hform

theorem TextForm.read {text : Option String} {found : Option Json} (h : TextForm text found) :
    optionalTextOfJson? found = some text := by
  cases h <;> rfl

theorem textForm_print (text : Option String) :
    TextForm text (some ((text.map Json.text).getD .null)) := by
  cases text with
  | none => exact .null
  | some s => exact .text s

/-- The text of a key is not the empty one, which would be no owner. -/
theorem text_key_ne (k : Key) : k.text ≠ "" := by
  intro h
  have hempty : Text.Base58.encode [] = "" := by
    simp [Text.Base58.encode, Text.Base58.encodeChars_eq, Text.Base58.places, leadingZeros, natOfBE,
      natOfLE]
  have hbytes : some k.bytes = some [] := by
    rw [← Text.Base58.decode?_encode k.bytes, ← Text.Base58.decode?_encode [], hempty]
    exact congrArg Text.Base58.decode? h
  have hsize := k.size
  rw [Option.some.inj hbytes] at hsize
  cases hsize

theorem OwnerForm.read {owner : Option Key} {found : Option Json} (h : OwnerForm owner found) :
    ownerOfJson? found = some owner := by
  cases h with
  | missing => rfl
  | null => rfl
  | empty => rfl
  | key k =>
    have htext : k.toJson.text? = some k.text := rfl
    have hread := k.parse?_text
    unfold ownerOfJson? Key.toJson Json.text
    dsimp only [Json.text?]
    split
    · next heq => exact absurd (Option.some.inj heq) (text_key_ne k)
    · next heq =>
      obtain rfl := Option.some.inj heq
      rw [hread]
      rfl
    · next heq => cases heq

theorem ownerForm_print (owner : Option Key) :
    OwnerForm owner (some ((owner.map Key.toJson).getD .null)) := by
  cases owner with
  | none => exact .null
  | some k => exact .key k

theorem list?_indexes (indexes : List UInt8) : (indexesToJson indexes).list? byte? = some indexes :=
  list?_array byte?_nat indexes

end Fields

end Json

open Json (FieldForm Holds ListForm OwnerForm TextForm)

/-! ## Instructions -/

namespace CompiledInstruction

/-- What stands under the names of an instruction. -/
structure Form (ix : CompiledInstruction) (under : String → Option Json) : Prop where
  programIndex : under "program_id_index" = some (.nat ix.programIndex.toNat)
  accounts : under "accounts" = some (indexesToJson ix.accounts)
  data : under "data" = some (.text (Text.Base58.encode ix.data))

/-- A document of an instruction. -/
def IsForm (ix : CompiledInstruction) (j : Json) : Prop :=
  ∃ under, j.Holds under ∧ ix.Form under

theorem isForm_toJson (ix : CompiledInstruction) : ix.IsForm ix.toJson :=
  ⟨_, Json.holds_record fieldNames rfl (by decide), ⟨rfl, rfl, rfl⟩⟩

theorem ofJson?_of_isForm {ix : CompiledInstruction} {j : Json} (h : ix.IsForm j) :
    ofJson? j = some ix := by
  obtain ⟨under, hunder, hform⟩ := h
  simp only [ofJson?, hunder.fields?, fieldNames, List.map_cons, List.map_nil, hform.programIndex,
    hform.accounts, hform.data, Option.bind_eq_bind, Option.bind_some, Option.pure_def,
    Json.byte?_nat, Json.list?_indexes, Json.text?_text, Text.Base58.decode?_encode]

end CompiledInstruction

namespace InnerInstructions

/-- What stands under the names of inner instructions. -/
structure Form (inner : InnerInstructions) (under : String → Option Json) : Prop where
  index : under "index" = some (.nat inner.index.toNat)
  instructions : ∃ j, under "instructions" = some j ∧
    ListForm CompiledInstruction.IsForm inner.instructions j

/-- A document of inner instructions. -/
def IsForm (inner : InnerInstructions) (j : Json) : Prop :=
  ∃ under, j.Holds under ∧ inner.Form under

theorem isForm_toJson (inner : InnerInstructions) : inner.IsForm inner.toJson :=
  ⟨_, Json.holds_record fieldNames rfl (by decide),
    ⟨rfl, _, rfl, Json.listForm_map CompiledInstruction.isForm_toJson _⟩⟩

theorem ofJson?_of_isForm {inner : InnerInstructions} {j : Json} (h : inner.IsForm j) :
    ofJson? j = some inner := by
  obtain ⟨under, hunder, hform⟩ := h
  obtain ⟨instructions, hfound, hlist⟩ := hform.instructions
  have hread := hlist.list? CompiledInstruction.ofJson?_of_isForm
  simp only [ofJson?, hunder.fields?, fieldNames, List.map_cons, List.map_nil, hform.index, hfound,
    hread, Option.bind_eq_bind, Option.bind_some, Option.pure_def, Json.byte?_nat]

end InnerInstructions

/-! ## Lookups and balances -/

namespace TableLookup

/-- What stands under the names of a lookup. -/
structure Form (l : TableLookup) (under : String → Option Json) : Prop where
  table : under "account_key" = some l.table.toJson
  writable : under "writable_indexes" = some (indexesToJson l.writable)
  readonly : under "readonly_indexes" = some (indexesToJson l.readonly)

/-- A document of a lookup. -/
def IsForm (l : TableLookup) (j : Json) : Prop :=
  ∃ under, j.Holds under ∧ l.Form under

theorem isForm_toJson (l : TableLookup) : l.IsForm l.toJson :=
  ⟨_, Json.holds_record fieldNames rfl (by decide), ⟨rfl, rfl, rfl⟩⟩

theorem ofJson?_of_isForm {l : TableLookup} {j : Json} (h : l.IsForm j) :
    ofJson? j = some l := by
  obtain ⟨under, hunder, hform⟩ := h
  simp only [ofJson?, hunder.fields?, fieldNames, List.map_cons, List.map_nil, hform.table,
    hform.writable, hform.readonly, Option.bind_eq_bind, Option.bind_some, Option.pure_def,
    Key.ofJson?_toJson, Json.list?_indexes]

end TableLookup

namespace TokenBalance

/-- What stands under the names of a balance. -/
structure Form (b : TokenBalance) (under : String → Option Json) : Prop where
  accountIndex : under "account_index" = some (.nat b.accountIndex.toNat)
  mint : under "mint" = some b.mint.toJson
  owner : OwnerForm b.owner (under "owner")
  amount : under "amount" = some (.text b.amount)

/-- A document of a balance. -/
def IsForm (b : TokenBalance) (j : Json) : Prop :=
  ∃ under, j.Holds under ∧ b.Form under

theorem isForm_toJson (b : TokenBalance) : b.IsForm b.toJson :=
  ⟨_, Json.holds_record fieldNames rfl (by decide),
    ⟨rfl, rfl, Json.ownerForm_print b.owner, rfl⟩⟩

theorem ofJson?_of_isForm {b : TokenBalance} {j : Json} (h : b.IsForm j) :
    ofJson? j = some b := by
  obtain ⟨under, hunder, hform⟩ := h
  simp only [ofJson?, hunder.fields?, fieldNames, List.map_cons, List.map_nil, hform.accountIndex,
    hform.mint, hform.amount, hform.owner.read, Option.bind_eq_bind, Option.bind_some,
    Option.pure_def, Json.byte?_nat, Key.ofJson?_toJson, Json.text?_text]

end TokenBalance

/-! ## Envelopes -/

namespace Envelope

/-- What stands under the names of an envelope. -/
structure Form (e : Envelope) (under : String → Option Json) : Prop where
  source : FieldForm "" (fun s j => j = .text s) e.source (under "source")
  signature : under "signature" = some (.text e.signature)
  accountKeys : under "account_keys" = some (.array (e.accountKeys.map Key.toJson))
  recentBlockhash : under "recent_blockhash" = some e.recentBlockhash.toJson
  instructions : ∃ j, under "instructions" = some j ∧
    ListForm CompiledInstruction.IsForm e.instructions j
  innerInstructions : FieldForm [] (ListForm InnerInstructions.IsForm) e.innerInstructions
    (under "inner_instructions")
  tableLookups : FieldForm [] (ListForm TableLookup.IsForm) e.tableLookups
    (under "address_table_lookups")
  preBalances : FieldForm [] (ListForm TokenBalance.IsForm) e.preBalances
    (under "pre_token_balances")
  postBalances : FieldForm [] (ListForm TokenBalance.IsForm) e.postBalances
    (under "post_token_balances")
  computeUnits : FieldForm 0 (fun n j => j = .nat n.toNat) e.computeUnits
    (under "compute_units_consumed")
  slot : FieldForm 0 (fun n j => j = .nat n.toNat) e.slot (under "slot")
  error : TextForm e.error (under "error")

/-- A document of an envelope. -/
def IsForm (e : Envelope) (j : Json) : Prop :=
  ∃ under, j.Holds under ∧ e.Form under

theorem isForm_toJson (e : Envelope) : e.IsForm e.toJson :=
  ⟨_, Json.holds_record fieldNames rfl (by decide),
    { source := .found rfl
      signature := rfl
      accountKeys := rfl
      recentBlockhash := rfl
      instructions := ⟨_, rfl, Json.listForm_map CompiledInstruction.isForm_toJson _⟩
      innerInstructions := .found (Json.listForm_map InnerInstructions.isForm_toJson _)
      tableLookups := .found (Json.listForm_map TableLookup.isForm_toJson _)
      preBalances := .found (Json.listForm_map TokenBalance.isForm_toJson _)
      postBalances := .found (Json.listForm_map TokenBalance.isForm_toJson _)
      computeUnits := .found rfl
      slot := .found rfl
      error := Json.textForm_print e.error }⟩

/-- Every document of an envelope reads as the envelope. -/
theorem ofJson?_of_isForm {e : Envelope} {j : Json} (h : e.IsForm j) : ofJson? j = some e := by
  obtain ⟨under, hunder, hform⟩ := h
  obtain ⟨instructions, hfound, hlist⟩ := hform.instructions
  -- each field by itself
  have htext : ∀ {s : String} {j : Json}, j = .text s → j.text? = some s := by
    rintro s j rfl
    rfl
  have hword : ∀ {n : UInt64} {j : Json}, j = .nat n.toNat → j.word64? = some n := by
    rintro n j rfl
    exact Json.word64?_nat n
  have hsource := hform.source.orDefault htext
  have hinstructions := hlist.list? CompiledInstruction.ofJson?_of_isForm
  have hinner := hform.innerInstructions.orDefault fun h =>
    h.list? InnerInstructions.ofJson?_of_isForm
  have hlookups := hform.tableLookups.orDefault fun h => h.list? TableLookup.ofJson?_of_isForm
  have hpre := hform.preBalances.orDefault fun h => h.list? TokenBalance.ofJson?_of_isForm
  have hpost := hform.postBalances.orDefault fun h => h.list? TokenBalance.ofJson?_of_isForm
  have hunits := hform.computeUnits.orDefault hword
  have hslot := hform.slot.orDefault hword
  simp only [ofJson?, hunder.fields?, fieldNames, List.map_cons, List.map_nil, hform.signature,
    hform.accountKeys, hform.recentBlockhash, hfound, hform.error.read, hsource, hinstructions,
    hinner, hlookups, hpre, hpost, hunits, hslot, Option.bind_eq_bind, Option.bind_some,
    Option.pure_def, Json.text?_text, Key.ofJson?_toJson, Json.list?_array Key.ofJson?_toJson]

end Envelope

end PoolWatch
