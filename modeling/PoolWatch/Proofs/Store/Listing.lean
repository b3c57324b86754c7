import PoolWatch.Proofs.Store.Cells

/-! # The keys of a store

    A key is listed under a field when there is a text.  No key is listed
    twice as long as no key has two hashes, and no edit gives a key a second
    one: a text is written to the hash that is there, and an emptied hash goes
    as a whole. -/

namespace PoolWatch

/-! ## Association lists -/

theorem map_fst_assocPut {β : Type} (key : String) (value : β) (l : List (String × β)) :
    (assocPut key value l).map (·.1) =
      if key ∈ l.map (·.1) then l.map (·.1) else l.map (·.1) ++ [key] := by
  induction l with
  | nil => rfl
  | cons entry rest ih =>
    obtain ⟨k, v⟩ := entry
    by_cases hk : k = key
    · simp [assocPut, hk]
    · rw [assocPut, if_neg hk, List.map_cons, List.map_cons, ih]
      by_cases hmem : key ∈ rest.map (·.1)
      · rw [if_pos hmem, if_pos (List.mem_cons_of_mem k hmem)]
      · rw [if_neg hmem, if_neg (List.not_mem_cons_of_ne_of_not_mem (Ne.symm hk) hmem)]
        rfl

theorem map_fst_assocErase {β : Type} (key : String) (l : List (String × β)) :
    (assocErase key l).map (·.1) = (l.map (·.1)).filter (· ≠ key) := by
  induction l with
  | nil => rfl
  | cons entry rest ih =>
    obtain ⟨k, v⟩ := entry
    by_cases hk : k = key <;> simp [assocErase, hk, ih]

/-- Where no key comes twice, every entry is the one that is found. -/
theorem assocGet?_eq_some_iff {β : Type} {l : List (String × β)} (h : (l.map (·.1)).Nodup)
    {key : String} {value : β} : assocGet? key l = some value ↔ (key, value) ∈ l := by
  induction l with
  | nil => simp [assocGet?]
  | cons entry rest ih =>
    obtain ⟨k, v⟩ := entry
    rw [List.map_cons, List.nodup_cons] at h
    by_cases hk : k = key
    · subst hk
      have hout : (k, value) ∉ rest := fun hmem => h.1 (List.mem_map_of_mem (f := (·.1)) hmem)
      simp [assocGet?, hout, eq_comm]
    · simp [assocGet?, hk, Ne.symm hk, ih h.2]

namespace Store

/-! ## Keys -/

/-- No key has two hashes. -/
def KeysOnce (s : Store) : Prop :=
  (s.hashes.map (·.1)).Nodup

theorem keysOnce_empty : empty.KeysOnce := List.nodup_nil

variable {s : Store}

theorem nodup_assocPut {β : Type} {l : List (String × β)} (h : (l.map (·.1)).Nodup)
    (key : String) (value : β) : ((assocPut key value l).map (·.1)).Nodup := by
  rw [map_fst_assocPut]
  split
  · exact h
  · next hout =>
    rw [← List.concat_eq_append]
    exact h.concat hout

theorem KeysOnce.set (h : s.KeysOnce) (key field value : String) :
    (s.set key field value).KeysOnce :=
  nodup_assocPut h key _

theorem KeysOnce.erase (h : s.KeysOnce) (key field : String) : (s.erase key field).KeysOnce := by
  unfold Store.erase
  split
  · exact h
  · split
    · show ((assocErase key s.hashes).map (·.1)).Nodup
      rw [map_fst_assocErase]
      exact h.filter _
    · exact nodup_assocPut h key _

/-! ## Listing -/

theorem keysWith_eq (s : Store) (field : String) :
    s.keysWith field =
      (s.hashes.filter fun entry => (assocGet? field entry.2).isSome).map (·.1) := by
  unfold keysWith
  induction s.hashes with
  | nil => rfl
  | cons entry rest ih =>
    obtain ⟨k, fields⟩ := entry
    cases htext : (assocGet? field fields).isSome <;> simp [htext, ih]

/-- No key is listed twice. -/
theorem KeysOnce.nodup_keysWith (h : s.KeysOnce) (field : String) : (s.keysWith field).Nodup := by
  rw [keysWith_eq]
  exact h.sublist (List.filter_sublist.map _)

/-- The keys that are listed are those with a text. -/
theorem KeysOnce.mem_keysWith (h : s.KeysOnce) {key field : String} :
    key ∈ s.keysWith field ↔ s.get? key field ≠ none := by
  rw [keysWith_eq, List.mem_map]
  unfold get?
  constructor
  · rintro ⟨⟨k, fields⟩, hentry, rfl⟩
    obtain ⟨hmem, htext⟩ := List.mem_filter.1 hentry
    rw [(assocGet?_eq_some_iff h).2 hmem, Option.bind_some]
    exact Option.isSome_iff_ne_none.1 htext
  · intro htext
    cases hfields : assocGet? key s.hashes with
    | none =>
      rw [hfields] at htext
      exact absurd rfl htext
    | some fields =>
      rw [hfields] at htext
      refine ⟨(key, fields), List.mem_filter.2 ⟨(assocGet?_eq_some_iff h).1 hfields, ?_⟩, rfl⟩
      exact Option.isSome_iff_ne_none.2 htext

end Store

end PoolWatch
