import PoolWatch.Proofs.Tracking.Operations

/-! # Records survive the store

    A record goes through the store as a text, among whatever else is kept
    there.  Pool keys, lookup tables, ledgers and tracking records are the
    forms of records there are; each is read as it was written.  A text is
    lost only to an edit of its own key and field, so a record is still there
    after any run of edits that spares it.  `records_survive` puts the two
    together. -/

namespace PoolWatch.Store

/-! ## Edits -/

/-- A change of one text. -/
inductive Edit where
  | set (key field value : String)
  | erase (key field : String)
  deriving DecidableEq

namespace Edit

/-- Where the text is that an edit changes. -/
def place : Edit → String × String
  | set key field _ => (key, field)
  | erase key field => (key, field)

/-- The store after an edit. -/
def apply (s : Store) : Edit → Store
  | set key field value => s.set key field value
  | erase key field => s.erase key field

/-- An edit of some other text. -/
def Spares (key : String) (field : Field) (e : Edit) : Prop :=
  e.place ≠ (key, field.name)

end Edit

/-- The store after some edits, one after the other. -/
def edited (s : Store) (edits : List Edit) : Store :=
  edits.foldl Edit.apply s

section Edits

variable {key : String} {field : Field}

theorem get?_apply {e : Edit} (h : e.Spares key field) (s : Store) :
    (e.apply s).get? key field.name = s.get? key field.name := by
  have hother : ∀ key' field', e.place = (key', field') →
      ¬ (key = key' ∧ field.name = field') := by
    rintro key' field' hplace ⟨rfl, rfl⟩
    exact h hplace
  cases e with
  | set key' field' value =>
    show (s.set key' field' value).get? key field.name = s.get? key field.name
    rw [get?_set, if_neg (hother key' field' rfl)]
  | erase key' field' =>
    show (s.erase key' field').get? key field.name = s.get? key field.name
    rw [get?_erase, if_neg (hother key' field' rfl)]

/-- A text that is spared stays, however many edits there are. -/
theorem get?_edited {edits : List Edit} (h : ∀ e ∈ edits, e.Spares key field) (s : Store) :
    (s.edited edits).get? key field.name = s.get? key field.name := by
  induction edits generalizing s with
  | nil => rfl
  | cons e edits ih =>
    have hfirst : e.Spares key field := h e (List.mem_cons_self ..)
    have hrest : ∀ e' ∈ edits, e'.Spares key field := fun e' he' =>
      h e' (List.mem_cons_of_mem e he')
    show ((e.apply s).edited edits).get? key field.name = s.get? key field.name
    rw [ih hrest, get?_apply hfirst]

end Edits

/-! ## Forms of records -/

/-- How records of one kind are written and read; some values of the type may
    be too large to be kept. -/
structure RecordForm (α : Type) where
  write : α → Json
  read : Json → Option α
  Fits : α → Prop
  plain_write : ∀ a, (write a).Plain
  read_write : ∀ a, Fits a → read (write a) = some a

namespace RecordForm

/-- The keys of pools. -/
def poolKeys : RecordForm PoolKeys where
  write := PoolKeys.toJson
  read := PoolKeys.ofJson?
  Fits _ := True
  plain_write := PoolKeys.plain_toJson
  read_write keys _ := keys.ofJson?_toJson

/-- The content of lookup tables. -/
def lookupTable : RecordForm Account.LookupTable where
  write := Account.LookupTable.toJson
  read := Account.LookupTable.ofJson?
  Fits _ := True
  plain_write := Account.LookupTable.plain_toJson
  read_write table _ := table.ofJson?_toJson

/-- Ledgers of amounts that fit in 128 bits. -/
def ledger : RecordForm Tracking.Ledger where
  write := Tracking.Ledger.toJson
  read := Tracking.Ledger.ofJson?
  Fits := Tracking.Ledger.Fits
  plain_write := Tracking.Ledger.plain_toJson
  read_write _ := Tracking.Ledger.ofJson?_toJson

/-- Tracking records, before they are understood. -/
def trackerRecord : RecordForm Tracking.TrackerRecord where
  write := Tracking.TrackerRecord.toJson
  read := Tracking.TrackerRecord.ofJson?
  Fits _ := True
  plain_write := Tracking.TrackerRecord.plain_toJson
  read_write record _ := record.ofJson?_toJson

variable {α : Type} (form : RecordForm α) {a : α} {key : String} {field : Field}
  {edits : List Edit}

/-- A record that was put is read, as long as its own text is not changed. -/
theorem record?_edited (ha : form.Fits a) (hedits : ∀ e ∈ edits, e.Spares key field)
    (s : Store) :
    ((s.putRecord key field (form.write a)).edited edits).record? form.read key field =
      .ok (some a) := by
  rw [record?_congr (get?_edited hedits _)]
  exact record?_putRecord_self s key field (form.plain_write a) (form.read_write a ha)

end RecordForm

/-! ## Trackers -/

/-- A venue that was put on record is found there. -/
theorem tracker_edited (now : Int64) (venue : Key) (status : Tracking.Status)
    {edits : List Edit} (hedits : ∀ e ∈ edits, e.Spares venue.text .tracker) (s : Store) :
    (runOn (Tracking.tracker venue)
      ((runOn (Tracking.setStatus now venue status) s).2.edited edits)).1 =
        .ok ⟨venue, status, now⟩ := by
  have hrecord : ((Tracking.withStatus now venue status s).edited edits).record?
      Tracking.TrackerRecord.ofJson? venue.text .tracker =
        .ok (some ⟨venue.text, status.name, now⟩) :=
    RecordForm.trackerRecord.record?_edited trivial hedits s
  rw [Tracking.runOn_setStatus, Tracking.runOn_tracker, hrecord]
  -- the two texts of the record are understood as the key and the status
  exact Tracking.TrackerRecord.tracker_mk venue status now

/-! ## All records -/

/-- Whatever a store holds, pool keys, the content of a lookup table or a
    ledger that was put at some place is read there exactly as it was, and a
    venue that was put on record is found with its status and its time; this
    is so at once, and after any further edits that spare the place. -/
theorem records_survive (s : Store) (edits : List Edit) :
    (∀ key field, (∀ e ∈ edits, e.Spares key field) →
      (∀ keys : PoolKeys,
        ((s.putRecord key field keys.toJson).edited edits).record? PoolKeys.ofJson? key field =
          .ok (some keys)) ∧
      (∀ table : Account.LookupTable,
        ((s.putRecord key field table.toJson).edited edits).record?
          Account.LookupTable.ofJson? key field = .ok (some table)) ∧
      (∀ ledger : Tracking.Ledger, ledger.Fits →
        ((s.putRecord key field ledger.toJson).edited edits).record?
          Tracking.Ledger.ofJson? key field = .ok (some ledger))) ∧
    (∀ (now : Int64) (venue : Key) (status : Tracking.Status),
      (∀ e ∈ edits, e.Spares venue.text .tracker) →
        (runOn (Tracking.setStatus now venue status) s).1 = .ok () ∧
        (runOn (Tracking.tracker venue)
          ((runOn (Tracking.setStatus now venue status) s).2.edited edits)).1 =
            .ok ⟨venue, status, now⟩) := by
  constructor
  · intro key field hedits
    refine ⟨fun keys => ?_, fun table => ?_, fun ledger hfits => ?_⟩
    · exact RecordForm.poolKeys.record?_edited trivial hedits s
    · exact RecordForm.lookupTable.record?_edited trivial hedits s
    · exact RecordForm.ledger.record?_edited hfits hedits s
  · intro now venue status hedits
    exact ⟨rfl, tracker_edited now venue status hedits s⟩

/-- The largest ledger there can be, beside a tracking record that does not
    read and that is written once more before the ledger is read. -/
theorem greatest_survives :
    let greatest : Tracking.Ledger := ⟨Tracking.Ledger.maxAmount, Tracking.Ledger.maxAmount,
      Tracking.Ledger.maxAmount⟩
    let venue := Key.zero.text
    let again := Edit.set venue Field.tracker.name "garbled"
    again.Spares venue .ledger ∧ greatest.Fits ∧
      (((Store.empty.set venue Field.tracker.name "").putRecord venue .ledger
        greatest.toJson).edited [again]).record? Tracking.Ledger.ofJson? venue .ledger =
          .ok (some greatest) := by
  intro greatest venue again
  have hspares : again.Spares venue .ledger := by
    intro hplace
    exact absurd (Prod.mk.inj hplace).2 (by decide)
  have hfits : greatest.Fits := ⟨Nat.le_refl _, Nat.le_refl _, Nat.le_refl _⟩
  have hall : ∀ e ∈ [again], e.Spares venue .ledger := by
    intro e he
    obtain rfl := List.mem_singleton.1 he
    exact hspares
  obtain ⟨-, -, hledger⟩ := (records_survive _ [again]).1 venue .ledger hall
  exact ⟨hspares, hfits, hledger greatest hfits⟩

end PoolWatch.Store
