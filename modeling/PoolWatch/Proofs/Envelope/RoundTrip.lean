import PoolWatch.Proofs.Envelope.Forms
import PoolWatch.Proofs.Json.Layout

/-! # Envelopes as texts

    Printing an envelope loses nothing: its text reads as the envelope.  So
    the text that an accepted one is printed to is canonical, for reading and
    printing it once more changes nothing, and all the texts that write an
    envelope (`Writes`) come down to this one. -/

namespace PoolWatch

/-! ## Plain documents -/

theorem Json.plain_map {α : Type} {write : α → Json} (h : ∀ a, (write a).Plain) (l : List α) :
    (Json.array (l.map write)).Plain := by
  apply Json.plain_array
  intro j hj
  obtain ⟨a, -, rfl⟩ := List.mem_map.1 hj
  exact h a

@[simp] theorem plain_indexesToJson (indexes : List UInt8) : (indexesToJson indexes).Plain :=
  Json.plain_map (fun _ => Json.plain_nat _) indexes

@[simp] theorem Key.plain_toJson (k : Key) : k.toJson.Plain := Json.plain_text _

theorem CompiledInstruction.plain_toJson (ix : CompiledInstruction) : ix.toJson.Plain := by
  apply Json.plain_record
  simp

theorem InnerInstructions.plain_toJson (inner : InnerInstructions) : inner.toJson.Plain := by
  apply Json.plain_record
  simp [Json.plain_map CompiledInstruction.plain_toJson]

theorem TableLookup.plain_toJson (l : TableLookup) : l.toJson.Plain := by
  apply Json.plain_record
  simp

theorem TokenBalance.plain_toJson (b : TokenBalance) : b.toJson.Plain := by
  have howner : ((b.owner.map Key.toJson).getD .null).Plain := by
    cases b.owner with
    | none => trivial
    | some k => exact k.plain_toJson
  apply Json.plain_record
  simp [howner]

namespace Envelope

theorem plain_toJson (e : Envelope) : e.toJson.Plain := by
  have herror : ((e.error.map Json.text).getD .null).Plain := by
    cases e.error with
    | none => trivial
    | some s => exact Json.plain_text s
  apply Json.plain_record
  simp [herror, Json.plain_map Key.plain_toJson, Json.plain_map CompiledInstruction.plain_toJson,
    Json.plain_map InnerInstructions.plain_toJson, Json.plain_map TableLookup.plain_toJson,
    Json.plain_map TokenBalance.plain_toJson]

/-! ## Texts -/

/-- A text of an envelope: the words of one of its documents, with any blanks
    around them. -/
def Writes (e : Envelope) (text : String) : Prop :=
  ∃ j : Json, e.IsForm j ∧ j.Plain ∧ Json.Laid (Json.tokensOf j) text.toList

/-- Every text of an envelope reads as the envelope. -/
theorem parse?_of_writes {e : Envelope} {text : String} (h : e.Writes text) :
    parse? text = some e := by
  obtain ⟨j, hform, hplain, hlaid⟩ := h
  rw [parse?, Json.parse?, Json.parseChars?_laid hplain hlaid, Option.bind_some,
    ofJson?_of_isForm hform]

/-- What is printed reads as what it was printed from. -/
theorem parse?_of_print (e : Envelope) : parse? e.print = some e := by
  rw [parse?, print, Json.parse?_compact e.plain_toJson, Option.bind_some,
    ofJson?_of_isForm e.isForm_toJson]

/-- Printing and reading gives the envelope back.  So whatever text an
    envelope was read from, it is printed to a canonical one, which reads as
    the same envelope and is printed to itself; and every text that writes
    the envelope, in whatever order, with whatever is left out and whatever
    blanks, comes down to it. -/
theorem parse?_print :
    (∀ e : Envelope, parse? e.print = some e) ∧
    (∀ (text : String) (e : Envelope), parse? text = some e →
      parse? e.print = some e ∧ (parse? e.print).map print = some e.print) ∧
    (∀ (e : Envelope) (text : String), e.Writes text →
      parse? text = some e ∧ (parse? text).map print = some e.print) := by
  refine ⟨parse?_of_print, ?_, ?_⟩
  · intro text e _
    rw [parse?_of_print]
    exact ⟨rfl, rfl⟩
  · intro e text hwrites
    rw [parse?_of_writes hwrites]
    exact ⟨rfl, rfl⟩

/-! ## An envelope written loosely -/

namespace LooseSample

/-- A balance whose owner is the empty text. -/
def balance : TokenBalance := ⟨0, .zero, none, "7"⟩

def balanceJson : Json :=
  .record [("amount", .text "7"), ("owner", .text ""), ("mint", Key.zero.toJson),
    ("account_index", .nat 0)]

def loose : Envelope := { empty with signature := "a\"b\n", postBalances := [balance] }

/-- Fields out of their order, one that is no field, and most defaults left out. -/
def looseJson : Json :=
  .record [("slot", .nat 0), ("error", .null), ("post_token_balances", .array [balanceJson]),
    ("instructions", .array []), ("note", .array [.bool true, .null]),
    ("recent_blockhash", Key.zero.toJson), ("signature", .text "a\"b\n"),
    ("account_keys", .array [])]

/-- A text with a blank before each word. -/
def looseText : String :=
  String.ofList (Json.spaced (Json.tokensOf looseJson))

theorem isForm_balance : balance.IsForm balanceJson :=
  ⟨_, Json.holds_record ["amount", "owner", "mint", "account_index"] rfl (by decide),
    ⟨rfl, rfl, .empty, rfl⟩⟩

theorem isForm_loose : loose.IsForm looseJson :=
  ⟨_, Json.holds_record ["slot", "error", "post_token_balances", "instructions", "note",
      "recent_blockhash", "signature", "account_keys"] rfl (by decide),
    { source := .missing
      signature := rfl
      accountKeys := rfl
      recentBlockhash := rfl
      instructions := ⟨_, rfl, [], rfl, .nil⟩
      innerInstructions := .missing
      tableLookups := .missing
      preBalances := .missing
      postBalances := .found ⟨_, rfl, .cons isForm_balance .nil⟩
      computeUnits := .missing
      slot := .found rfl
      error := .null }⟩

theorem writes_loose : loose.Writes looseText := by
  have hbalance : balanceJson.Plain := Json.plain_record (by simp)
  have hplain : looseJson.Plain := by
    apply Json.plain_record
    simp [Json.Plain, Json.PlainItems, hbalance]
  refine ⟨looseJson, isForm_loose, hplain, ?_⟩
  rw [looseText, String.toList_ofList]
  exact Json.laid_spaced _

/-- The loose text is not the canonical one, and comes down to it. -/
theorem loose_canonical :
    looseText ≠ loose.print ∧ (parse? looseText).map print = some loose.print ∧
      (parse? loose.print).map print = some loose.print := by
  obtain ⟨-, hcanonical, hloose⟩ := parse?_print
  obtain ⟨hread, hprint⟩ := hloose loose looseText writes_loose
  refine ⟨?_, hprint, (hcanonical looseText loose hread).2⟩
  intro heq
  have hfirst := congrArg (fun s : String => s.toList.head?) heq
  simp only [looseText, print, Json.compact, String.toList_ofList] at hfirst
  cases hfirst

end LooseSample

end Envelope

end PoolWatch
