import PoolWatch.Tracking.Tracker
import PoolWatch.Pool.Keys
import PoolWatch.Proofs.Store.Cells
import PoolWatch.Proofs.Text.KeyText

/-! # Stored records read back

    A record is written as an object with each field once.  `fields?_record`
    finds the fields again by their names; what is left for each kind of
    record is that its numbers, keys and texts are read as they were
    written. -/

namespace PoolWatch

namespace Json

/-! ## Fields -/

theorem filter_name {members : List (String × Json)} (hnd : (members.map (·.1)).Nodup)
    {m : String × Json} (hm : m ∈ members) :
    (members.map fun m => (some m.1, m.2)).filter (fun n => n.1 == some m.1) =
      [(some m.1, m.2)] := by
  induction members with
  | nil => cases hm
  | cons n rest ih =>
    rw [List.map_cons, List.nodup_cons] at hnd
    rcases List.mem_cons.1 hm with rfl | hm
    · -- no later member has the name once more
      have hrest : (rest.map fun m => (some m.1, m.2)).filter (fun n => n.1 == some m.1) = [] := by
        rw [List.filter_eq_nil_iff]
        intro n hn
        obtain ⟨n', hn', rfl⟩ := List.mem_map.1 hn
        have hne : n'.1 ≠ m.1 := by
          intro h
          exact hnd.1 (h ▸ List.mem_map_of_mem hn')
        simpa using hne
      simp [hrest]
    · have hne : n.1 ≠ m.1 := by
        intro h
        exact hnd.1 (h ▸ List.mem_map_of_mem hm)
      have hskip : ((some n.1, n.2).1 == some m.1) = false := by simpa using hne
      rw [List.map_cons, List.filter_cons, hskip]
      exact ih hnd.2 hm

theorem mapM_eq_some_map {α β : Type} {f : α → Option β} {g : α → β} {l : List α}
    (h : ∀ a ∈ l, f a = some (g a)) : l.mapM f = some (l.map g) := by
  induction l with
  | nil => rfl
  | cons a l ih =>
    have ha := h a (List.mem_cons_self ..)
    have hl := ih fun b hb => h b (List.mem_cons_of_mem a hb)
    simp [List.mapM_cons, ha, hl]

/-- The fields of a record are found by their names. -/
theorem fields?_record {members : List (String × Json)} {names : List String}
    (hnames : members.map (·.1) = names) (hnd : names.Nodup) :
    (record members).fields? names = some (members.map fun m => some m.2) := by
  subst hnames
  unfold record fields?
  have hnames : (members.map fun m => (some m.1, m.2)).any (fun m => m.1.isNone) = false := by
    rw [List.any_eq_false]
    intro m hm
    obtain ⟨m', -, rfl⟩ := List.mem_map.1 hm
    simp
  simp only [hnames, Bool.false_eq_true, if_false, List.mapM_map]
  apply mapM_eq_some_map
  intro m hm
  simp only [Function.comp, filter_name hnd hm]

/-! ## Values -/

@[simp] theorem text?_text (s : String) : (text s).text? = some s := rfl

theorem nat?_nat {bound n : Nat} (h : n ≤ bound) : (nat n).nat? bound = some n := by
  simp [nat, nat?, Numeral.ofNat, Numeral.toNat?, Numeral.isInteger, h]

theorem le_of_nat? {j : Json} {bound n : Nat} (h : j.nat? bound = some n) : n ≤ bound := by
  cases j with
  | number numeral =>
    obtain ⟨v, -, hv⟩ := Option.bind_eq_some_iff.1 h
    split at hv
    · next hle =>
      obtain rfl := Option.some.inj hv
      exact hle
    · cases hv
  | _ => cases h

@[simp] theorem byte?_nat (b : UInt8) : (nat b.toNat).byte? = some b := by
  have hle : b.toNat ≤ 0xff := Nat.le_of_lt_succ b.toNat_lt
  rw [byte?, nat?_nat hle]
  simp

@[simp] theorem word64?_nat (w : UInt64) : (nat w.toNat).word64? = some w := by
  have hle : w.toNat ≤ 0xffffffffffffffff := Nat.le_of_lt_succ w.toNat_lt
  rw [word64?, nat?_nat hle]
  simp

/-- An integer's numeral writes it; the negative zero is never written. -/
theorem toInt?_ofInt (n : Int) : (Numeral.ofInt n).toInt? = some n := by
  unfold Numeral.ofInt Numeral.toInt?
  by_cases hneg : n < 0
  · have hne : n.natAbs ≠ 0 := by omega
    simp only [Numeral.isInteger, hneg, decide_true, Option.isNone_none, Bool.and_self,
      Bool.not_true, Bool.false_eq_true, if_false, if_true, hne]
    congr 1
    omega
  · simp only [Numeral.isInteger, hneg, decide_false, Option.isNone_none, Bool.and_self,
      Bool.not_true, Bool.false_eq_true, if_false]
    congr 1
    omega

@[simp] theorem int64?_int (n : Int64) : (int n.toInt).int64? = some n := by
  have hlow : -0x8000000000000000 ≤ n.toInt := n.le_toInt
  have hhigh : n.toInt < 0x8000000000000000 := n.toInt_lt
  simp [int, int64?, toInt?_ofInt, hlow, hhigh]

theorem list?_array {α : Type} {read : Json → Option α} {write : α → Json}
    (h : ∀ a, read (write a) = some a) (l : List α) :
    (array (l.map write)).list? read = some l := by
  have hread : l.mapM (read ∘ write) = some (l.map id) := mapM_eq_some_map fun a _ => h a
  simp only [list?, items?, Option.bind_some, List.mapM_map, hread, List.map_id]

end Json

/-! ## Keys -/

@[simp] theorem Key.plain_toNumbers (k : Key) : k.toNumbers.Plain := by
  apply Json.plain_array
  intro j hj
  obtain ⟨b, -, rfl⟩ := List.mem_map.1 hj
  exact Json.plain_nat _

@[simp] theorem Key.ofNumbers?_toNumbers (k : Key) : Key.ofNumbers? k.toNumbers = some k := by
  rw [Key.ofNumbers?, Key.toNumbers, Json.list?_array Json.byte?_nat, Option.bind_some,
    Key.ofBytes?_bytes]

/-! ## Ledgers -/

namespace Tracking.Ledger

/-- All three amounts are unsigned integers of 128 bits. -/
structure Fits (l : Ledger) : Prop where
  total : l.total ≤ maxAmount
  remaining : l.remaining ≤ maxAmount
  stage : l.stage ≤ maxAmount

theorem plain_toJson (l : Ledger) : l.toJson.Plain := by
  apply Json.plain_record
  simp

theorem ofJson?_toJson {l : Ledger} (h : l.Fits) : ofJson? l.toJson = some l := by
  have hfields : l.toJson.fields? ["total", "remaining", "chunk"] =
      some [some (.nat l.total), some (.nat l.remaining), some (.nat l.stage)] :=
    Json.fields?_record rfl (by decide)
  simp only [ofJson?, hfields, Option.bind_eq_bind, Option.bind_some, Option.pure_def,
    Json.nat?_nat h.total, Json.nat?_nat h.remaining, Json.nat?_nat h.stage]

/-- Whatever reads as a ledger could have been written. -/
theorem fits_of_ofJson? {j : Json} {l : Ledger} (h : ofJson? j = some l) : l.Fits := by
  obtain ⟨fields, -, h⟩ := Option.bind_eq_some_iff.1 h
  split at h
  · obtain ⟨total, htotal, h⟩ := Option.bind_eq_some_iff.1 h
    obtain ⟨remaining, hremaining, h⟩ := Option.bind_eq_some_iff.1 h
    obtain ⟨stage, hstage, h⟩ := Option.bind_eq_some_iff.1 h
    obtain rfl := Option.some.inj h
    exact ⟨Json.le_of_nat? htotal, Json.le_of_nat? hremaining, Json.le_of_nat? hstage⟩
  · cases h

end Tracking.Ledger

/-! ## Trackers -/

namespace Tracking.TrackerRecord

theorem plain_toJson (r : TrackerRecord) : r.toJson.Plain := by
  apply Json.plain_record
  simp

@[simp] theorem ofJson?_toJson (r : TrackerRecord) : ofJson? r.toJson = some r := by
  have hfields : r.toJson.fields? ["venue_id", "status", "last_updated"] =
      some [some (.text r.venue), some (.text r.status), some (.int r.lastUpdated.toInt)] :=
    Json.fields?_record rfl (by decide)
  simp only [ofJson?, hfields, Option.bind_eq_bind, Option.bind_some, Option.pure_def,
    Json.text?_text, Json.int64?_int]

/-- A record of a key and a status is understood as what it was made of. -/
@[simp] theorem tracker_mk (venue : Key) (status : Status) (time : Int64) :
    tracker ⟨venue.text, status.name, time⟩ = .ok ⟨venue, status, time⟩ := by
  simp [tracker]

end Tracking.TrackerRecord

/-! ## Pool keys -/

namespace PoolKeys

theorem plain_toJson (k : PoolKeys) : k.toJson.Plain := by
  apply Json.plain_record
  simp

@[simp] theorem ofJson?_toJson (k : PoolKeys) : ofJson? k.toJson = some k := by
  have hfields : k.toJson.fields? fieldNames = some (List.map _ _) :=
    Json.fields?_record rfl (by decide)
  unfold ofJson?
  rw [hfields, Option.bind_eq_bind, Option.bind_some]
  simp only [List.map_cons, List.map_nil]
  -- all fields are there; each is read as it was written
  simp only [Option.bind_eq_bind, Option.bind_some, Option.pure_def, Key.ofNumbers?_toNumbers,
    Json.byte?_nat]

end PoolKeys

/-! ## Lookup tables -/

namespace Account.LookupTable

theorem plain_toJson (t : LookupTable) : t.toJson.Plain := by
  have haddresses : (Json.array (t.addresses.map Key.toNumbers)).Plain := by
    apply Json.plain_array
    intro j hj
    obtain ⟨k, -, rfl⟩ := List.mem_map.1 hj
    exact k.plain_toNumbers
  have hauthority : ((t.authority.map Key.toNumbers).getD .null).Plain := by
    cases t.authority with
    | none => trivial
    | some k => exact k.plain_toNumbers
  apply Json.plain_record
  simp [haddresses, hauthority]

@[simp] theorem authorityOfJson?_toNumbers (authority : Option Key) :
    authorityOfJson? (some ((authority.map Key.toNumbers).getD .null)) = some authority := by
  cases authority with
  | none => rfl
  | some k =>
    have hread := k.ofNumbers?_toNumbers
    simp only [Option.map_some, Option.getD_some, Key.toNumbers] at hread ⊢
    simp only [authorityOfJson?, hread, Option.map_some]

@[simp] theorem ofJson?_toJson (t : LookupTable) : ofJson? t.toJson = some t := by
  have hfields : t.toJson.fields? ["deactivation_slot", "last_extended_slot",
      "last_extended_slot_start_index", "authority", "addresses"] =
      some [some (.nat t.deactivationSlot.toNat), some (.nat t.lastExtendedSlot.toNat),
        some (.nat t.lastExtendedStart.toNat),
        some ((t.authority.map Key.toNumbers).getD .null),
        some (.array (t.addresses.map Key.toNumbers))] :=
    Json.fields?_record rfl (by decide)
  simp only [ofJson?, hfields, Option.bind_eq_bind, Option.bind_some, Option.pure_def,
    Json.word64?_nat, Json.byte?_nat, authorityOfJson?_toNumbers,
    Json.list?_array Key.ofNumbers?_toNumbers]

end Account.LookupTable

end PoolWatch
