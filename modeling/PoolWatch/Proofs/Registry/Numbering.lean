import PoolWatch.Proofs.Run
import PoolWatch.Registry.Resolve
import Mathlib.Algebra.Order.Ring.Nat
import Mathlib.Data.List.Perm.Basic

/-! # How loaded accounts are numbered

    Past its static keys, a message numbers the entries that it takes from
    lookup tables.  Here they are numbered table by table, and within a table
    the writable ones before the readonly ones (`getElem?_writable`,
    `getElem?_readonly`).  A version-0 message numbers the same entries
    another way: the writable ones of all tables, then the readonly ones of
    all tables.

    The two agree as long as no table with readonly entries stands before a
    table with writable ones.  When no entry is taken twice, they agree then
    only. -/

namespace PoolWatch

/-! ## The two orders -/

/-- The writable entries of a table. -/
def TableLookup.writableEntries (l : TableLookup) : List TableEntry :=
  l.writable.map (TableEntry.mk l.table)

/-- The readonly entries of a table. -/
def TableLookup.readonlyEntries (l : TableLookup) : List TableEntry :=
  l.readonly.map (TableEntry.mk l.table)

/-- The table entries of a message as a version-0 message numbers them: the
    writable ones of all tables, then the readonly ones of all tables. -/
def loadedEntries (lookups : List TableLookup) : List TableEntry :=
  lookups.flatMap TableLookup.writableEntries ++ lookups.flatMap TableLookup.readonlyEntries

/-- No table with readonly entries stands before a table with writable ones. -/
def WritableFirst (lookups : List TableLookup) : Prop :=
  lookups.Pairwise fun l l' => l.readonly = [] ∨ l'.writable = []

instance (lookups : List TableLookup) : Decidable (WritableFirst lookups) :=
  inferInstanceAs (Decidable (lookups.Pairwise _))

/-- How many entries a message takes from its tables. -/
def entryCount (lookups : List TableLookup) : Nat :=
  (lookups.map fun l => l.writable.length + l.readonly.length).sum

/-! ## Table by table -/

section Tables

variable (l : TableLookup) (lookups before after : List TableLookup)

theorem flattenLookups_cons :
    flattenLookups (l :: lookups) =
      l.writableEntries ++ l.readonlyEntries ++ flattenLookups lookups := by
  unfold flattenLookups TableLookup.writableEntries TableLookup.readonlyEntries
  rw [List.flatMap_cons, List.map_append]

theorem flattenLookups_append :
    flattenLookups (before ++ after) = flattenLookups before ++ flattenLookups after :=
  List.flatMap_append

theorem length_flattenLookups : (flattenLookups lookups).length = entryCount lookups := by
  induction lookups with
  | nil => rfl
  | cons l rest ih =>
    rw [flattenLookups_cons, List.length_append, List.length_append, ih]
    simp [TableLookup.writableEntries, TableLookup.readonlyEntries, entryCount]

/-- A table's entries are numbered from the count of those of the tables before it. -/
theorem getElem?_flattenLookups {j : Nat} (h : j < l.writable.length + l.readonly.length) :
    (flattenLookups (before ++ l :: after))[entryCount before + j]? =
      (l.writableEntries ++ l.readonlyEntries)[j]? := by
  have hlength : (l.writableEntries ++ l.readonlyEntries).length =
      l.writable.length + l.readonly.length := by
    simp [TableLookup.writableEntries, TableLookup.readonlyEntries]
  rw [flattenLookups_append, flattenLookups_cons, ← length_flattenLookups,
    List.getElem?_append_right (Nat.le_add_right _ _), Nat.add_sub_cancel_left,
    List.getElem?_append_left (hlength ▸ h)]

variable {l} {j : Nat} {index : UInt8}

theorem getElem?_writable (h : l.writable[j]? = some index) :
    (flattenLookups (before ++ l :: after))[entryCount before + j]? = some ⟨l.table, index⟩ := by
  obtain ⟨hlt, -⟩ := List.getElem?_eq_some_iff.1 h
  have hlength : j < l.writableEntries.length := by
    rwa [TableLookup.writableEntries, List.length_map]
  rw [getElem?_flattenLookups l before after (by omega), List.getElem?_append_left hlength,
    TableLookup.writableEntries, List.getElem?_map, h]
  rfl

theorem getElem?_readonly (h : l.readonly[j]? = some index) :
    (flattenLookups (before ++ l :: after))[entryCount before + l.writable.length + j]? =
      some ⟨l.table, index⟩ := by
  obtain ⟨hlt, -⟩ := List.getElem?_eq_some_iff.1 h
  have hlength : l.writableEntries.length = l.writable.length := by
    rw [TableLookup.writableEntries, List.length_map]
  rw [Nat.add_assoc, getElem?_flattenLookups l before after (by omega),
    List.getElem?_append_right (by omega), hlength, Nat.add_sub_cancel_left,
    TableLookup.readonlyEntries, List.getElem?_map, h]
  rfl

end Tables

/-! ## Where the two orders agree -/

section Agreement

variable {l : TableLookup} {lookups : List TableLookup}

theorem loadedEntries_cons (l : TableLookup) (lookups : List TableLookup) :
    loadedEntries (l :: lookups) =
      l.writableEntries ++ lookups.flatMap TableLookup.writableEntries ++
        (l.readonlyEntries ++ lookups.flatMap TableLookup.readonlyEntries) := by
  unfold loadedEntries
  rw [List.flatMap_cons, List.flatMap_cons]

/-- Both orders number the same entries. -/
theorem flattenLookups_perm (lookups : List TableLookup) :
    (flattenLookups lookups).Perm (loadedEntries lookups) := by
  induction lookups with
  | nil => exact List.Perm.refl _
  | cons l rest ih =>
    rw [flattenLookups_cons, loadedEntries_cons, List.append_assoc, List.append_assoc]
    refine List.Perm.append_left _ ?_
    -- the readonly entries of the first table pass the writable ones of all others
    refine (List.Perm.append_left l.readonlyEntries ih).trans ?_
    unfold loadedEntries
    rw [← List.append_assoc, ← List.append_assoc]
    exact List.Perm.append_right _ List.perm_append_comm

theorem writableFirst_cons :
    WritableFirst (l :: lookups) ↔
      (l.readonly = [] ∨ lookups.flatMap TableLookup.writableEntries = []) ∧
        WritableFirst lookups := by
  unfold WritableFirst
  rw [List.pairwise_cons, List.flatMap_eq_nil_iff]
  simp only [TableLookup.writableEntries, List.map_eq_nil_iff]
  refine and_congr ⟨fun h => ?_, fun h => ?_⟩ Iff.rfl
  · by_cases hreadonly : l.readonly = []
    · exact .inl hreadonly
    · exact .inr fun l' hl' => (h l' hl').resolve_left hreadonly
  · exact fun l' hl' => h.imp_right fun hnone => hnone l' hl'

theorem flattenLookups_eq_loadedEntries (h : WritableFirst lookups) :
    flattenLookups lookups = loadedEntries lookups := by
  induction lookups with
  | nil => rfl
  | cons l rest ih =>
    obtain ⟨hfirst, hrest⟩ := writableFirst_cons.1 h
    rw [flattenLookups_cons, loadedEntries_cons, ih hrest]
    unfold loadedEntries
    -- either nothing has to pass, or there is nothing to pass
    rcases hfirst with hreadonly | hwritable
    · simp [TableLookup.readonlyEntries, hreadonly]
    · simp [hwritable]

/-- Two blocks that may each come first, and share no entry, are not both there. -/
theorem eq_nil_or_eq_nil_of_append_eq {as bs xs ys : List TableEntry}
    (hnodup : (bs ++ (as ++ ys)).Nodup) (h : as ++ xs = bs ++ (as ++ ys)) : as = [] ∨ bs = [] := by
  cases as with
  | nil => exact .inl rfl
  | cons a as =>
    cases bs with
    | nil => exact .inr rfl
    | cons b bs =>
      obtain rfl : a = b := (List.cons.inj h).1
      simp at hnodup

theorem writableFirst_of_nodup (hnodup : (loadedEntries lookups).Nodup)
    (h : flattenLookups lookups = loadedEntries lookups) : WritableFirst lookups := by
  induction lookups with
  | nil => exact List.Pairwise.nil
  | cons l rest ih =>
    rw [loadedEntries_cons, List.append_assoc] at hnodup h
    rw [flattenLookups_cons, List.append_assoc, List.append_cancel_left_eq] at h
    have htail := (List.nodup_append.1 hnodup).2.1
    have hfirst := eq_nil_or_eq_nil_of_append_eq htail h
    -- the first table once passed, the others are in the same position
    have hrest : flattenLookups rest = loadedEntries rest := by
      unfold loadedEntries
      rcases hfirst with hnone | hnone
      · simpa [hnone] using h
      · simpa [hnone] using h
    have hnodupRest : (loadedEntries rest).Nodup := by
      refine htail.sublist ?_
      exact List.Sublist.append_left (List.sublist_append_right _ _) _
    refine writableFirst_cons.2 ⟨?_, ih hnodupRest hrest⟩
    exact hfirst.imp_left List.map_eq_nil_iff.1

end Agreement

/-! ## Resolving -/

namespace Registry

/-- The key of a table entry. -/
def entryKey (entry : TableEntry) : RegistryM ResolveError Key := do
  let table ← lookupTable entry.table
  match table.addresses[entry.index.toNat]? with
  | some key => pure key
  | none => throw (.indexOutOfRange entry.index.toNat table.addresses.length)

/-- Past the static keys, the number of an account is the number of an entry. -/
theorem resolveIndex_loaded (static : List Key) (lookups : List TableLookup) (n : Nat) :
    resolveIndex static lookups (static.length + n) =
      match (flattenLookups lookups)[n]? with
      | some entry => entryKey entry
      | none =>
        throw (.indexOutOfRange (static.length + n) (static.length + entryCount lookups)) := by
  have hstatic : static[static.length + n]? = none :=
    List.getElem?_eq_none (Nat.le_add_right _ _)
  unfold resolveIndex
  rw [hstatic, Nat.add_sub_cancel_left]
  dsimp only
  rw [length_flattenLookups]
  cases (flattenLookups lookups)[n]? <;> rfl

end Registry

/-! ## The numbering -/

/-- Loaded entries are numbered table by table, each table's writable ones
    before its readonly ones, and past the static keys an account number
    means the entry of its number.  The same entries are numbered as in a
    version-0 message, and in the same order when no table with readonly
    entries stands before a table with writable ones; unless some entry is
    taken twice, only then. -/
theorem loaded_numbering (lookups : List TableLookup) :
    (∀ before l after, lookups = before ++ l :: after →
      (∀ j index, l.writable[j]? = some index →
        (flattenLookups lookups)[entryCount before + j]? = some ⟨l.table, index⟩) ∧
      (∀ j index, l.readonly[j]? = some index →
        (flattenLookups lookups)[entryCount before + l.writable.length + j]? =
          some ⟨l.table, index⟩)) ∧
    (flattenLookups lookups).length = entryCount lookups ∧
    (∀ static n, Registry.resolveIndex static lookups (static.length + n) =
      match (flattenLookups lookups)[n]? with
      | some entry => Registry.entryKey entry
      | none => throw
          (.indexOutOfRange (static.length + n) (static.length + entryCount lookups))) ∧
    (flattenLookups lookups).Perm (loadedEntries lookups) ∧
    (WritableFirst lookups → flattenLookups lookups = loadedEntries lookups) ∧
    ((loadedEntries lookups).Nodup →
      flattenLookups lookups = loadedEntries lookups → WritableFirst lookups) := by
  refine ⟨?_, length_flattenLookups lookups, ?_, flattenLookups_perm lookups,
    flattenLookups_eq_loadedEntries, writableFirst_of_nodup⟩
  · rintro before l after rfl
    exact ⟨fun j index h => getElem?_writable before after h,
      fun j index h => getElem?_readonly before after h⟩
  · exact fun static n => Registry.resolveIndex_loaded static lookups n

/-- Two tables whose readonly entries come last, and the four numbers past one
    static key. -/
theorem ordered_numbering :
    let first : TableLookup := ⟨.ofNat 1, [1, 2], []⟩
    let second : TableLookup := ⟨.ofNat 2, [0], [3]⟩
    WritableFirst [first, second] ∧ (loadedEntries [first, second]).Nodup ∧
      flattenLookups [first, second] = loadedEntries [first, second] ∧
      Registry.resolveIndex [.ofNat 7] [first, second] 4 = Registry.entryKey ⟨second.table, 3⟩ := by
  intro first second
  obtain ⟨htables, -, hresolve, -, hagree, -⟩ := loaded_numbering [first, second]
  have hfirst : WritableFirst [first, second] := by decide
  obtain ⟨-, hreadonly⟩ := htables [first] second [] rfl
  have hentry : (flattenLookups [first, second])[3]? = some ⟨second.table, 3⟩ :=
    hreadonly 0 3 rfl
  refine ⟨hfirst, by decide, hagree hfirst, ?_⟩
  rw [show (4 : Nat) = [Key.ofNat 7].length + 3 from rfl, hresolve, hentry]

/-- Two tables, a readonly entry of the first before a writable one of the
    second: the two entries change places. -/
theorem crossed_numbering :
    let first : TableLookup := ⟨.ofNat 1, [1], [9]⟩
    let second : TableLookup := ⟨.ofNat 2, [0], []⟩
    flattenLookups [first, second] = [⟨first.table, 1⟩, ⟨first.table, 9⟩, ⟨second.table, 0⟩] ∧
      loadedEntries [first, second] = [⟨first.table, 1⟩, ⟨second.table, 0⟩, ⟨first.table, 9⟩] ∧
      flattenLookups [first, second] ≠ loadedEntries [first, second] := by
  decide

end PoolWatch
