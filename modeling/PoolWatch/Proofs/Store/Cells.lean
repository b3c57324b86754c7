import PoolWatch.Store.Basic
import PoolWatch.Proofs.Json.RoundTrip

/-! # What the store holds after a write

    `Store.get?` is the view: writing changes the text at one key and field,
    erasing removes it, and every other text stays as it was.  Records
    follow: a plain document that was put is the one that is read. -/

namespace PoolWatch

/-! ## Association lists -/

theorem assocGet?_assocPut {β : Type} (key key' : String) (value : β) (l : List (String × β)) :
    assocGet? key' (assocPut key value l) =
      if key' = key then some value else assocGet? key' l := by
  induction l with
  | nil => simp [assocPut, assocGet?, eq_comm]
  | cons entry rest ih =>
    obtain ⟨k, v⟩ := entry
    by_cases hk : k = key
    · subst hk
      by_cases hkey : k = key'
      · simp [assocPut, assocGet?, hkey]
      · simp [assocPut, assocGet?, hkey, Ne.symm hkey]
    · by_cases hkey : k = key'
      · subst hkey
        simp [assocPut, assocGet?, hk]
      · simp [assocPut, assocGet?, hk, hkey, ih]

theorem assocPut_assocPut {β : Type} (key : String) (value value' : β) (l : List (String × β)) :
    assocPut key value' (assocPut key value l) = assocPut key value' l := by
  induction l with
  | nil => simp [assocPut]
  | cons entry rest ih =>
    obtain ⟨k, v⟩ := entry
    by_cases hk : k = key
    · simp [assocPut, hk]
    · simp [assocPut, hk, ih]

/-- Putting what is there already changes nothing. -/
theorem assocPut_eq_self {β : Type} {key : String} {value : β} {l : List (String × β)}
    (h : assocGet? key l = some value) : assocPut key value l = l := by
  induction l with
  | nil => cases h
  | cons entry rest ih =>
    obtain ⟨k, v⟩ := entry
    by_cases hk : k = key
    · subst hk
      obtain rfl : v = value := by simpa [assocGet?] using h
      simp [assocPut]
    · have hrest : assocGet? key rest = some value := by simpa [assocGet?, hk] using h
      simp [assocPut, hk, ih hrest]

theorem assocGet?_assocErase {β : Type} (key key' : String) (l : List (String × β)) :
    assocGet? key' (assocErase key l) = if key' = key then none else assocGet? key' l := by
  induction l with
  | nil => simp [assocErase, assocGet?]
  | cons entry rest ih =>
    obtain ⟨k, v⟩ := entry
    by_cases hk : k = key
    · subst hk
      rw [assocErase, if_pos rfl, ih]
      by_cases hkey : key' = k
      · simp [hkey]
      · simp [assocGet?, hkey, Ne.symm hkey]
    · by_cases hkey : k = key'
      · subst hkey
        simp [assocErase, assocGet?, hk]
      · simp [assocErase, assocGet?, hk, hkey, ih]

namespace Store

/-! ## Texts -/

@[simp] theorem get?_empty (key field : String) : empty.get? key field = none := rfl

theorem get?_set (s : Store) (key field value key' field' : String) :
    (s.set key field value).get? key' field' =
      if key' = key ∧ field' = field then some value else s.get? key' field' := by
  unfold get? set
  rw [assocGet?_assocPut]
  by_cases hkey : key' = key
  · subst hkey
    rw [if_pos rfl, Option.bind_some, assocGet?_assocPut]
    by_cases hfield : field' = field
    · simp [hfield]
    · cases hashes : assocGet? key' s.hashes <;> simp [hfield, assocGet?]
  · simp [hkey]

/-- Of two texts written at one place, only the later one shows. -/
theorem set_set (s : Store) (key field value value' : String) :
    (s.set key field value).set key field value' = s.set key field value' := by
  unfold set
  rw [assocPut_assocPut, assocGet?_assocPut, if_pos rfl, Option.getD_some, assocPut_assocPut]

/-- Writing the text that is there already changes nothing. -/
theorem set_eq_self {s : Store} {key field value : String} (h : s.get? key field = some value) :
    s.set key field value = s := by
  obtain ⟨fields, hfields, hvalue⟩ := Option.bind_eq_some_iff.1 h
  unfold set
  rw [hfields, Option.getD_some, assocPut_eq_self hvalue, assocPut_eq_self hfields]

/-- The hash of a key after one of its fields was erased: a hash that is left
    empty is dropped, which shows in no text. -/
theorem get?_erase (s : Store) (key field key' field' : String) :
    (s.erase key field).get? key' field' =
      if key' = key ∧ field' = field then none else s.get? key' field' := by
  unfold erase
  cases hhash : assocGet? key s.hashes with
  | none =>
    by_cases hkey : key' = key
    · subst hkey
      simp [get?, hhash]
    · simp [hkey]
  | some fields =>
    -- what is left of the hash tells the same of every other field
    have hfield := assocGet?_assocErase field field' fields
    dsimp only
    cases hrest : assocErase field fields with
    | nil =>
      rw [hrest] at hfield
      by_cases hkey : key' = key
      · subst hkey
        simp only [get?, assocGet?_assocErase, hhash, if_true, Option.bind_none, Option.bind_some]
        by_cases hf : field' = field
        · simp [hf]
        · simpa [hf, assocGet?] using hfield
      · simp [get?, assocGet?_assocErase, hkey]
    | cons entry rest =>
      rw [hrest] at hfield
      by_cases hkey : key' = key
      · subst hkey
        simp [get?, assocGet?_assocPut, hhash, hfield]
      · simp [get?, assocGet?_assocPut, hkey]

/-! ## Records -/

theorem Field.name_inj {f g : Field} : f.name = g.name ↔ f = g := by
  constructor
  · cases f <;> cases g <;> decide
  · rintro rfl
    rfl

theorem get?_putRecord (s : Store) (key key' : String) (field field' : Field) (j : Json) :
    (s.putRecord key field j).get? key' field'.name =
      if key' = key ∧ field' = field then some j.compact else s.get? key' field'.name := by
  simp only [putRecord, get?_set, Field.name_inj]

theorem get?_eraseRecord (s : Store) (key key' : String) (field field' : Field) :
    (s.eraseRecord key field).get? key' field'.name =
      if key' = key ∧ field' = field then none else s.get? key' field'.name := by
  simp only [eraseRecord, get?_erase, Field.name_inj]

variable {α : Type} {read : Json → Option α}

theorem record?_congr {s s' : Store} {key : String} {field : Field}
    (h : s'.get? key field.name = s.get? key field.name) :
    s'.record? read key field = s.record? read key field := by
  unfold record?
  rw [h]

@[simp] theorem record?_empty (key : String) (field : Field) :
    empty.record? read key field = .ok none := rfl

/-- No record means no text. -/
theorem record?_eq_none_iff {s : Store} {key : String} {field : Field} :
    s.record? read key field = .ok none ↔ s.get? key field.name = none := by
  unfold record?
  cases s.get? key field.name with
  | none => exact ⟨fun _ => rfl, fun _ => rfl⟩
  | some text =>
    dsimp only
    cases (Json.parse? text).bind read <;> exact ⟨nofun, nofun⟩

theorem get?_ne_none {s : Store} {key : String} {field : Field} {a : α}
    (h : s.record? read key field = .ok (some a)) : s.get? key field.name ≠ none := by
  intro hnone
  rw [record?_eq_none_iff.2 hnone] at h
  cases h

/-- A text is read as the record that it was written for. -/
theorem record?_of_get? {s : Store} {key : String} {field : Field} {j : Json} {a : α}
    (h : s.get? key field.name = some j.compact) (hj : j.Plain) (hread : read j = some a) :
    s.record? read key field = .ok (some a) := by
  unfold record?
  rw [h]
  simp only [Json.parse?_compact hj, Option.bind_some, hread]

/-- What is put is what is read. -/
theorem record?_putRecord_self (s : Store) (key : String) (field : Field) {j : Json} {a : α}
    (hj : j.Plain) (hread : read j = some a) :
    (s.putRecord key field j).record? read key field = .ok (some a) :=
  record?_of_get? ((get?_putRecord ..).trans (if_pos ⟨rfl, rfl⟩)) hj hread

/-- What is put and does not read is reported. -/
theorem record?_putRecord_malformed (s : Store) (key : String) (field : Field) {j : Json}
    (hj : j.Plain) (hread : read j = none) :
    (s.putRecord key field j).record? read key field = .error .malformed := by
  unfold record?
  rw [get?_putRecord, if_pos ⟨rfl, rfl⟩]
  simp only [Json.parse?_compact hj, Option.bind_some, hread]

theorem record?_putRecord_of_ne (s : Store) {key key' : String} {field field' : Field} (j : Json)
    (h : ¬ (key' = key ∧ field' = field)) :
    (s.putRecord key field j).record? read key' field' = s.record? read key' field' := by
  apply record?_congr
  rw [get?_putRecord, if_neg h]

theorem record?_eraseRecord_self (s : Store) (key : String) (field : Field) :
    (s.eraseRecord key field).record? read key field = .ok none := by
  unfold record?
  rw [get?_eraseRecord, if_pos ⟨rfl, rfl⟩]

end Store

end PoolWatch
