import PoolWatch.Proofs.Store.Listing
import PoolWatch.Proofs.Store.Survival

/-! # The last edit of a place counts

    A store is asked to write, to delete, to tell and to list, in any order.
    Its two levels do not show: at a key and field it tells the text that the
    last edit of this very place left there, whatever was edited elsewhere,
    and it lists the keys that have such a text.

    The invariant relates a store to the requests it has answered
    (`StandsFor`).  One request keeps it and is answered by it, and so is
    every run of requests, as `last_edit_counts` says for a store that starts
    empty.  No key stays with an empty hash, so a store in which no text is
    left is the empty one. -/

namespace PoolWatch

/-! ## Association lists -/

theorem assocErase_eq_filter {β : Type} (key : String) (l : List (String × β)) :
    assocErase key l = l.filter (·.1 ≠ key) := by
  induction l with
  | nil => rfl
  | cons entry rest ih =>
    obtain ⟨k, v⟩ := entry
    by_cases hk : k = key
    · simp [assocErase, hk, ih]
    · simp [assocErase, hk, ih]

theorem mem_assocPut {β : Type} {key : String} {value : β} {l : List (String × β)}
    {entry : String × β} (h : entry ∈ assocPut key value l) :
    entry = (key, value) ∨ entry ∈ l := by
  induction l with
  | nil => simpa [assocPut] using h
  | cons first rest ih =>
    obtain ⟨k, v⟩ := first
    by_cases hk : k = key
    · simp only [assocPut, hk, if_true, List.mem_cons] at h
      rcases h with rfl | h
      · exact .inl rfl
      · exact .inr (List.mem_cons_of_mem _ h)
    · simp only [assocPut, hk, if_false, List.mem_cons] at h
      rcases h with rfl | h
      · exact .inr (List.mem_cons_self ..)
      · exact (ih h).imp_right (List.mem_cons_of_mem _)

theorem assocPut_ne_nil {β : Type} (key : String) (value : β) (l : List (String × β)) :
    assocPut key value l ≠ [] := by
  cases l with
  | nil => simp [assocPut]
  | cons first rest =>
    unfold assocPut
    split <;> simp

namespace Store

/-! ## Requests -/

/-- What a store is asked for. -/
inductive Request where
  | edit (e : Edit)
  | tell (key field : String)
  | list (field : String)
  deriving DecidableEq

/-- What it answers. -/
inductive Reply where
  | done
  | told (text? : Option String)
  | listed (keys : List String)
  deriving DecidableEq

/-- Answers a request. -/
def respond (s : Store) : Request → Reply × Store
  | .edit e => (.done, e.apply s)
  | .tell key field => (.told (s.get? key field), s)
  | .list field => (.listed (s.keysWith field), s)

/-- The store after some requests. -/
def after (s : Store) : List Request → Store
  | [] => s
  | request :: rest => (s.respond request).2.after rest

/-- The answers to some requests. -/
def replies (s : Store) : List Request → List Reply
  | [] => []
  | request :: rest => (s.respond request).1 :: (s.respond request).2.replies rest

/-! ## What requests leave behind -/

/-- Some requests leave a text at a place: one of them writes it there, and
    none after this one edits the place again. -/
def Leaves (past : List Request) (key field value : String) : Prop :=
  ∃ before rest, past = before ++ .edit (.set key field value) :: rest ∧
    ∀ e, .edit e ∈ rest → e.place ≠ (key, field)

/-- What the answer to a request has to be after some others. -/
def Fits (past : List Request) : Request → Reply → Prop
  | .edit _, .done => True
  | .tell key field, .told text? => ∀ value, text? = some value ↔ Leaves past key field value
  | .list field, .listed keys =>
    keys.Nodup ∧ ∀ key, key ∈ keys ↔ ∃ value, Leaves past key field value
  | _, _ => False

/-- Each answer of a run is the one that the requests before it call for. -/
inductive Answered : List Request → List Request → List Reply → Prop where
  | nil (past : List Request) : Answered past [] []
  | cons {past rest : List Request} {request : Request} {reply : Reply} {more : List Reply}
      (fits : Fits past request reply) (others : Answered (past ++ [request]) rest more) :
      Answered past (request :: rest) (reply :: more)

/-- Every text that is written is deleted later on. -/
def Undone : List Request → Prop
  | [] => True
  | .edit (.set key field _) :: rest => .edit (.erase key field) ∈ rest ∧ Undone rest
  | _ :: rest => Undone rest

section Leaving

variable {past : List Request} {request : Request} {key field value : String}

theorem not_leaves_nil : ¬ Leaves [] key field value := by
  rintro ⟨before, rest, hpast, -⟩
  exact absurd hpast.symm (by simp)

/-- One request more leaves a text that it writes itself, or one that was
    left before and that it does not touch. -/
theorem leaves_concat :
    Leaves (past ++ [request]) key field value ↔
      request = .edit (.set key field value) ∨
        Leaves past key field value ∧ ∀ e, request = .edit e → e.place ≠ (key, field) := by
  constructor
  · rintro ⟨before, rest, hpast, hrest⟩
    rcases List.eq_nil_or_concat rest with rfl | ⟨front, last, rfl⟩
    · -- nothing comes after the write, so it is the request itself
      have hlast := List.append_inj_right' hpast rfl
      exact .inl (List.cons.inj hlast).1
    · rw [List.concat_eq_append, ← List.cons_append, ← List.append_assoc] at hpast
      have hfront := List.append_inj_left' hpast rfl
      have hlast := (List.cons.inj (List.append_inj_right' hpast rfl)).1
      refine .inr ⟨⟨before, front, hfront, fun e he => hrest e ?_⟩, fun e he => hrest e ?_⟩
      · simp [he]
      · simp [← hlast, he]
  · rintro (rfl | ⟨⟨before, rest, rfl, hrest⟩, hrequest⟩)
    · exact ⟨past, [], rfl, by simp⟩
    · refine ⟨before, rest ++ [request], by simp, ?_⟩
      intro e he
      rcases List.mem_append.1 he with he | he
      · exact hrest e he
      · exact hrequest e (List.mem_singleton.1 he).symm

/-- What is always deleted later on is not left. -/
theorem Undone.not_leaves (h : Undone past) : ¬ Leaves past key field value := by
  rintro ⟨before, rest, rfl, hrest⟩
  have herased : .edit (.erase key field) ∈ rest := by
    induction before with
    | nil => exact h.1
    | cons first before ih =>
      apply ih
      -- whatever comes first, the others are undone among themselves
      rcases first with (_ | _) | _ | _
      · exact h.2
      · exact h
      · exact h
      · exact h
  exact hrest _ herased rfl

end Leaving

/-! ## One edit -/

section Editing

variable {s : Store} {key field value : String}

/-- An edit shows at its own place and nowhere else. -/
theorem get?_edit (s : Store) (e : Edit) :
    (e.apply s).get? key field = some value ↔
      e = .set key field value ∨ s.get? key field = some value ∧ e.place ≠ (key, field) := by
  by_cases h : e.place = (key, field)
  · cases e with
    | set key' field' value' =>
      cases h
      simp [Edit.apply, Edit.place, get?_set]
    | erase key' field' =>
      cases h
      simp [Edit.apply, Edit.place, get?_erase]
  · cases e with
    | set key' field' value' =>
      have hother : ¬ (key = key' ∧ field = field') := by
        rintro ⟨rfl, rfl⟩
        exact h rfl
      have hset : Edit.set key' field' value' ≠ .set key field value := by
        intro heq
        apply h
        rw [heq]
        rfl
      simp [Edit.apply, get?_set, hother, hset, h]
    | erase key' field' =>
      have hother : ¬ (key = key' ∧ field = field') := by
        rintro ⟨rfl, rfl⟩
        exact h rfl
      simp [Edit.apply, get?_erase, hother, h]

theorem KeysOnce.edit (h : s.KeysOnce) (e : Edit) : (e.apply s).KeysOnce := by
  cases e with
  | set key field value => exact h.set key field value
  | erase key field => exact h.erase key field

/-- No key is kept with an empty hash. -/
def Filled (s : Store) : Prop :=
  ∀ entry ∈ s.hashes, entry.2 ≠ []

theorem filled_empty : empty.Filled := by
  intro entry hentry
  cases hentry

theorem Filled.edit (h : s.Filled) (e : Edit) : (e.apply s).Filled := by
  intro entry hentry
  cases e with
  | set key field value =>
    rcases mem_assocPut hentry with rfl | hold
    · exact assocPut_ne_nil field value _
    · exact h entry hold
  | erase key field =>
    have happly : (Edit.erase key field).apply s = s.erase key field := rfl
    rw [happly] at hentry
    unfold erase at hentry
    cases hhash : assocGet? key s.hashes with
    | none =>
      rw [hhash] at hentry
      exact h entry hentry
    | some fields =>
      rw [hhash] at hentry
      dsimp only at hentry
      split at hentry
      · -- the emptied hash goes, the others are as they were
        rw [assocErase_eq_filter] at hentry
        exact h entry (List.mem_of_mem_filter hentry)
      · next hrest =>
        rcases mem_assocPut hentry with rfl | hold
        · exact hrest
        · exact h entry hold

/-- A store that tells no text is the empty one. -/
theorem Filled.eq_empty (h : s.Filled) (hnone : ∀ key field, s.get? key field = none) :
    s = empty := by
  obtain ⟨hashes⟩ := s
  cases hashes with
  | nil => rfl
  | cons entry rest =>
    obtain ⟨key, fields⟩ := entry
    cases fields with
    | nil => exact absurd rfl (h (key, []) (List.mem_cons_self ..))
    | cons first more =>
      obtain ⟨field, value⟩ := first
      have htold := hnone key field
      simp [get?, assocGet?] at htold

end Editing

/-! ## Runs -/

/-- A store holds what some requests leave behind, and nothing besides. -/
structure StandsFor (s : Store) (past : List Request) : Prop where
  texts : ∀ key field value, s.get? key field = some value ↔ Leaves past key field value
  keysOnce : s.KeysOnce
  filled : s.Filled

theorem standsFor_empty : empty.StandsFor [] where
  texts key field value := by simp [not_leaves_nil]
  keysOnce := keysOnce_empty
  filled := filled_empty

variable {s : Store} {past : List Request}

/-- The answer to one request. -/
theorem StandsFor.fits (h : s.StandsFor past) (request : Request) :
    Fits past request (s.respond request).1 := by
  cases request with
  | edit e => exact trivial
  | tell key field => exact h.texts key field
  | list field =>
    refine ⟨h.keysOnce.nodup_keysWith field, fun key => ?_⟩
    rw [h.keysOnce.mem_keysWith, Option.ne_none_iff_exists']
    simp only [h.texts]

/-- What one request makes of the store. -/
theorem StandsFor.respond (h : s.StandsFor past) (request : Request) :
    (s.respond request).2.StandsFor (past ++ [request]) := by
  cases request with
  | edit e =>
    refine ⟨fun key field value => ?_, h.keysOnce.edit e, h.filled.edit e⟩
    show (e.apply s).get? key field = some value ↔ _
    rw [get?_edit, leaves_concat, h.texts]
    simp
  | tell _ _ =>
    refine ⟨fun key field value => ?_, h.keysOnce, h.filled⟩
    show s.get? key field = some value ↔ _
    rw [leaves_concat, h.texts]
    simp
  | list _ =>
    refine ⟨fun key field value => ?_, h.keysOnce, h.filled⟩
    show s.get? key field = some value ↔ _
    rw [leaves_concat, h.texts]
    simp

theorem StandsFor.run (h : s.StandsFor past) (requests : List Request) :
    (s.after requests).StandsFor (past ++ requests) ∧
      Answered past requests (s.replies requests) := by
  induction requests generalizing s past with
  | nil =>
    rw [List.append_nil]
    exact ⟨h, .nil past⟩
  | cons request rest ih =>
    obtain ⟨hafter, hreplies⟩ := ih (h.respond request)
    rw [List.append_assoc, List.singleton_append] at hafter
    exact ⟨hafter, .cons (h.fits request) hreplies⟩

/-- On a store that starts empty, each request of a run is answered from the
    last edit of every place before it: a text is told exactly where it was
    left, and the keys under a field are listed once each.  No key is kept
    with an empty hash, and the run ends with the empty store exactly if it
    leaves no text, as it does if all that it writes is deleted again. -/
theorem last_edit_counts (requests : List Request) :
    Answered [] requests (empty.replies requests) ∧ (empty.after requests).Filled ∧
      (empty.after requests = empty ↔ ∀ key field value, ¬ Leaves requests key field value) ∧
      (Undone requests → empty.after requests = empty) := by
  obtain ⟨hstands, hanswered⟩ := standsFor_empty.run requests
  rw [List.nil_append] at hstands
  have hempty : empty.after requests = empty ↔
      ∀ key field value, ¬ Leaves requests key field value := by
    constructor
    · intro h key field value hleaves
      rw [← hstands.texts, h, get?_empty] at hleaves
      cases hleaves
    · intro h
      apply hstands.filled.eq_empty
      intro key field
      rw [Option.eq_none_iff_forall_ne_some]
      intro value htext
      exact h key field value ((hstands.texts key field value).1 htext)
  refine ⟨hanswered, hstands.filled, hempty, fun hundone => ?_⟩
  exact hempty.2 fun key field value => hundone.not_leaves

/-- Two fields of one key and one of another, written and deleted across each
    other. -/
theorem last_edit_counts_undone :
    let requests : List Request := [.edit (.set "a" "f" "1"), .edit (.set "a" "g" "2"),
      .edit (.set "b" "g" "3"), .list "g", .edit (.erase "a" "f"), .tell "a" "g",
      .edit (.erase "b" "g"), .edit (.erase "a" "g")]
    Undone requests ∧ empty.after requests = empty := by
  intro requests
  have hundone : Undone requests := by simp [requests, Undone]
  obtain ⟨-, -, -, hempty⟩ := last_edit_counts requests
  exact ⟨hundone, hempty hundone⟩

end Store

end PoolWatch
