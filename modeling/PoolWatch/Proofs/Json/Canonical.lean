import Mathlib.Data.String.Basic
import PoolWatch.Json.Printer

/-! # Members of a general value

    A general value holds each name of an object once and in order, where a
    document may repeat names in any order.  Under every name the general
    value holds the form of what the document holds there, the last of its
    members with that name. -/

namespace PoolWatch.Json

variable {members sorted : List (Option String × Json)} {name : String} {value j c : Json}
  {depth : Nat}

/-! ## Names -/

/-- The member that counts is the last one with the name. -/
theorem get?_object (members : List (Option String × Json)) (name : String) :
    (object members).get? name =
      (members.filter fun m => m.1 == some name).getLast?.map (·.2) := by
  show (members.reverse.find? fun m => m.1 == some name).map (·.2) = _
  rw [← List.head?_filter, List.filter_reverse, List.head?_reverse]

theorem get?_cons (m : Option String × Json) (members : List (Option String × Json))
    (name : String) :
    (object (m :: members)).get? name =
      ((object members).get? name).or (if m.1 = some name then some m.2 else none) := by
  simp only [get?, List.reverse_cons, List.find?_append, Option.map_or]
  congr 1
  by_cases h : m.1 = some name <;> simp [h]

theorem get?_eq_none (h : ∀ m ∈ members, m.1 ≠ some name) : (object members).get? name = none := by
  have hnone : (members.filter fun m => m.1 == some name) = [] := by
    rw [List.filter_eq_nil_iff]
    intro m hm
    simpa using h m hm
  rw [get?_object, hnone]
  rfl

/-- Reading each of a list, where what is read is known whenever it reads. -/
theorem mapM_eq_some_iff {α β : Type} {f : α → Option β} {reads : α → Prop} {g : α → β}
    (h : ∀ a b, f a = some b ↔ reads a ∧ b = g a) {l : List α} {bs : List β} :
    l.mapM f = some bs ↔ (∀ a ∈ l, reads a) ∧ bs = l.map g := by
  induction l generalizing bs with
  | nil => simp [eq_comm]
  | cons a l ih =>
    rw [List.mapM_cons, List.forall_mem_cons]
    constructor
    · intro hread
      obtain ⟨b, hb, hread⟩ := Option.bind_eq_some_iff.1 hread
      obtain ⟨rest, hrest, hread⟩ := Option.bind_eq_some_iff.1 hread
      obtain rfl := Option.some.inj hread
      obtain ⟨ha, rfl⟩ := (h a b).1 hb
      obtain ⟨hl, rfl⟩ := ih.1 hrest
      exact ⟨⟨ha, hl⟩, rfl⟩
    · rintro ⟨⟨ha, hl⟩, rfl⟩
      rw [(h a (g a)).2 ⟨ha, rfl⟩, ih.2 ⟨hl, rfl⟩]
      rfl

/-- The fields of an object are what it holds under their names, if none of
    these is repeated and every member has a name. -/
theorem fields?_object_eq_some_iff {names : List String} {values : List (Option Json)} :
    (object members).fields? names = some values ↔
      (∀ m ∈ members, m.1 ≠ none) ∧
      (∀ name ∈ names, (members.filter fun m => m.1 == some name).length ≤ 1) ∧
      values = names.map (object members).get? := by
  have hany : members.any (fun m => m.1.isNone) = true ↔ ¬ ∀ m ∈ members, m.1 ≠ none := by
    simp
  by_cases hnamed : ∀ m ∈ members, m.1 ≠ none
  · rw [fields?, if_neg (fun h => hany.1 h hnamed), and_iff_right hnamed]
    apply mapM_eq_some_iff
    intro name field
    rw [get?_object]
    generalize (members.filter fun m => m.1 == some name) = named
    rcases named with _ | ⟨m, _ | ⟨n, rest⟩⟩
    · simp [Eq.comm (a := field)]
    · simp [Eq.comm (a := field)]
    · simp
  · rw [fields?, if_pos (hany.2 hnamed)]
    exact ⟨nofun, fun h => absurd h.1 hnamed⟩

/-! ## Sorted members -/

/-- Members with names, in the strict order of these. -/
structure Ordered (members : List (Option String × Json)) : Prop where
  named : ∀ m ∈ members, ∃ name, m.1 = some name
  rising : members.Pairwise fun a b => a.1.getD "" < b.1.getD ""

theorem ordered_nil : Ordered [] := ⟨nofun, List.Pairwise.nil⟩

theorem Ordered.tail {m : Option String × Json} (h : Ordered (m :: members)) :
    Ordered members :=
  ⟨fun n hn => h.named n (List.mem_cons_of_mem m hn), (List.pairwise_cons.1 h.rising).2⟩

/-- What comes after a member has none of the names up to its own. -/
theorem Ordered.get?_of_le {m : Option String × Json} (h : Ordered (m :: members))
    (hle : name ≤ m.1.getD "") : (object members).get? name = none := by
  apply get?_eq_none
  intro n hn hname
  have hlt := (List.pairwise_cons.1 h.rising).1 n hn
  rw [hname] at hlt
  exact absurd (lt_of_le_of_lt hle hlt) (lt_irrefl name)

theorem mem_insertMember {m : Option String × Json} (hm : m ∈ insertMember name value sorted) :
    m = (some name, value) ∨ m ∈ sorted := by
  induction sorted with
  | nil => exact .inl (List.mem_singleton.1 hm)
  | cons head rest ih =>
    unfold insertMember at hm
    split at hm
    · exact List.mem_cons.1 hm
    · split at hm
      · exact (List.mem_cons.1 hm).imp_right (List.mem_cons_of_mem head)
      · rcases List.mem_cons.1 hm with rfl | hm
        · exact .inr (List.mem_cons_self ..)
        · exact (ih hm).imp_right (List.mem_cons_of_mem head)

theorem Ordered.insertMember (h : Ordered sorted) (name : String) (value : Json) :
    Ordered (insertMember name value sorted) := by
  refine ⟨?_, ?_⟩
  · intro m hm
    rcases mem_insertMember hm with rfl | hm
    · exact ⟨name, rfl⟩
    · exact h.named m hm
  induction sorted with
  | nil => exact List.pairwise_singleton ..
  | cons head rest ih =>
    obtain ⟨other, held⟩ := head
    obtain ⟨hhead, hrest⟩ := List.pairwise_cons.1 h.rising
    unfold Json.insertMember
    split
    · next hlt =>
      refine List.pairwise_cons.2 ⟨?_, h.rising⟩
      intro m hm
      rcases List.mem_cons.1 hm with rfl | hm
      · exact hlt
      · exact lt_trans hlt (hhead m hm)
    · next hnlt =>
      split
      · next heq =>
        subst heq
        exact List.pairwise_cons.2 ⟨hhead, hrest⟩
      · next hne =>
        refine List.pairwise_cons.2 ⟨?_, ih h.tail⟩
        intro m hm
        rcases mem_insertMember hm with rfl | hm
        · obtain ⟨own, hown⟩ := h.named _ (List.mem_cons_self ..)
          obtain rfl : other = some own := hown
          have hne : own ≠ name := fun heq => hne (heq ▸ rfl)
          exact lt_of_le_of_ne (not_lt.1 hnlt) hne
        · exact hhead m hm

/-- Under its name the inserted member is found; under the others nothing changes. -/
theorem Ordered.get?_insertMember (h : Ordered sorted) (name : String) (value : Json)
    (other : String) :
    (object (Json.insertMember name value sorted)).get? other =
      if name = other then some value else (object sorted).get? other := by
  induction sorted with
  | nil =>
    unfold Json.insertMember
    rw [get?_cons]
    by_cases heq : name = other <;> simp [heq, get?_eq_none]
  | cons head rest ih =>
    obtain ⟨key, held⟩ := head
    unfold Json.insertMember
    split
    · next hlt =>
      rw [get?_cons]
      by_cases heq : name = other
      · subst heq
        have hhead : key ≠ some name := by
          rintro rfl
          exact lt_irrefl name hlt
        simp [get?_cons, h.get?_of_le hlt.le, hhead]
      · simp [heq]
    · next hnlt =>
      split
      · next hkey =>
        subst hkey
        rw [get?_cons, get?_cons]
        by_cases heq : name = other
        · subst heq
          have hrest : (object rest).get? name = none := h.get?_of_le le_rfl
          simp [hrest]
        · simp [heq]
      · next hkey =>
        rw [get?_cons, get?_cons, ih h.tail]
        by_cases heq : name = other <;> simp [heq]

/-! ## General values -/

theorem canonical?_object_eq_some (h : canonical? depth (object members) = some c) :
    ∃ form, canonicalMembers? (depth - 1) [] members = some form ∧ c = object form := by
  rw [canonical?] at h
  split at h
  · cases h
  · obtain ⟨form, hform, rfl⟩ := Option.map_eq_some_iff.1 h
    exact ⟨form, hform, rfl⟩

theorem canonical?_array_eq_some {items : List Json} (h : canonical? depth (array items) = some c) :
    ∃ form, c = array form := by
  rw [canonical?] at h
  split at h
  · cases h
  · obtain ⟨form, -, rfl⟩ := Option.map_eq_some_iff.1 h
    exact ⟨form, rfl⟩

theorem canonical?_number_eq_some {n : Numeral} (h : canonical? depth (number n) = some c) :
    ∃ form, c = number form := by
  rw [canonical?] at h
  obtain ⟨form, -, rfl⟩ := Option.map_eq_some_iff.1 h
  exact ⟨form, rfl⟩

theorem canonical?_string_eq_some {text? : Option String}
    (h : canonical? depth (string text?) = some c) : c = string text? := by
  cases text? <;> simp_all [canonical?]

/-- Only null has the form of null. -/
theorem canonical?_eq_null_iff : canonical? depth j = some .null ↔ j = .null := by
  constructor
  · intro h
    cases j with
    | null => rfl
    | bool b => simp [canonical?] at h
    | number n =>
      obtain ⟨form, hform⟩ := canonical?_number_eq_some h
      cases hform
    | string text? => cases canonical?_string_eq_some h
    | array items =>
      obtain ⟨form, hform⟩ := canonical?_array_eq_some h
      cases hform
    | object members =>
      obtain ⟨form, -, hform⟩ := canonical?_object_eq_some h
      cases hform
  · rintro rfl
    simp [canonical?]


/-- Under each name, the sorted members hold the form of the last member that
    was put onto them, or else what they held before. -/
theorem get?_canonicalMembers? (hsorted : Ordered sorted) {form : List (Option String × Json)}
    (h : canonicalMembers? depth sorted members = some form) (name : String) :
    ((object members).get? name = none ∧ (object form).get? name = (object sorted).get? name) ∨
      ∃ held value, (object members).get? name = some held ∧ canonical? depth held = some value ∧
        (object form).get? name = some value := by
  induction members generalizing sorted with
  | nil =>
    obtain rfl : sorted = form := by simpa [canonicalMembers?] using h
    exact .inl ⟨rfl, rfl⟩
  | cons m rest ih =>
    obtain ⟨_ | key, held⟩ := m
    · simp [canonicalMembers?] at h
    · rw [canonicalMembers?] at h
      obtain ⟨value, hvalue, h⟩ := Option.bind_eq_some_iff.1 h
      rw [get?_cons]
      rcases ih (hsorted.insertMember key value) h with
        ⟨hrest, hform⟩ | ⟨later, form', hrest, hform⟩
      · -- no later member has the name, so this one counts if it has it
        rw [hrest, hform, hsorted.get?_insertMember, Option.none_or]
        by_cases heq : key = name
        · exact .inr ⟨held, value, by simp [heq], hvalue, by simp [heq]⟩
        · exact .inl (by simp [heq])
      · rw [hrest, Option.some_or]
        exact .inr ⟨later, form', rfl, hform⟩

theorem ne_none_of_canonicalMembers? {form : List (Option String × Json)}
    (h : canonicalMembers? depth sorted members = some form) : ∀ m ∈ members, m.1 ≠ none := by
  induction members generalizing sorted with
  | nil => exact nofun
  | cons m rest ih =>
    obtain ⟨_ | key, held⟩ := m
    · simp [canonicalMembers?] at h
    · rw [canonicalMembers?] at h
      obtain ⟨value, -, h⟩ := Option.bind_eq_some_iff.1 h
      exact List.forall_mem_cons.2 ⟨nofun, ih h⟩

/-- An object with a nameless member has no general value. -/
theorem ne_none_of_canonical? (h : canonical? depth (object members) = some c) :
    ∀ m ∈ members, m.1 ≠ none := by
  obtain ⟨form, hform, -⟩ := canonical?_object_eq_some h
  exact ne_none_of_canonicalMembers? hform

/-- Under each name, a general value holds the form of what the document holds there. -/
theorem get?_canonical? (h : canonical? depth j = some c) (name : String) :
    (j.get? name = none ∧ c.get? name = none) ∨
      ∃ held value, j.get? name = some held ∧ canonical? (depth - 1) held = some value ∧
        c.get? name = some value := by
  cases j with
  | object members =>
    obtain ⟨form, hform, rfl⟩ := canonical?_object_eq_some h
    exact get?_canonicalMembers? ordered_nil hform name
  | array items =>
    obtain ⟨form, rfl⟩ := canonical?_array_eq_some h
    exact .inl ⟨rfl, rfl⟩
  | number n =>
    obtain ⟨form, rfl⟩ := canonical?_number_eq_some h
    exact .inl ⟨rfl, rfl⟩
  | string text? =>
    obtain rfl := canonical?_string_eq_some h
    exact .inl ⟨rfl, rfl⟩
  | bool b =>
    rw [canonical?] at h
    cases h
    exact .inl ⟨rfl, rfl⟩
  | null =>
    obtain rfl := Option.some.inj ((canonical?_eq_null_iff.2 rfl).symm.trans h)
    exact .inl ⟨rfl, rfl⟩

end PoolWatch.Json
