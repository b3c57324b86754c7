import PoolWatch.Transaction.Message

/-! # The uses of a message

    Every call puts its program and its accounts on a list of uses, one for
    each key, sorted by key.  No key stands there twice, and what a call does
    with a key is covered by the use of that key, whatever was merged into it
    before and after. -/

namespace PoolWatch

/-! ## The order of keys -/

namespace Key

theorem bytesBefore_irrefl (as : Bytes) : bytesBefore as as = false := by
  induction as with
  | nil => rfl
  | cons a as ih => simp [bytesBefore, ih]

theorem bytesBefore_trans {as bs cs : Bytes} (h : bytesBefore as bs = true)
    (h' : bytesBefore bs cs = true) : bytesBefore as cs = true := by
  induction as generalizing bs cs with
  | nil =>
    cases cs with
    | nil => cases bs <;> cases h'
    | cons => rfl
  | cons a as ih =>
    cases bs with
    | nil => cases h
    | cons b bs =>
      cases cs with
      | nil => cases h'
      | cons c cs =>
        simp only [bytesBefore, Bool.or_eq_true, Bool.and_eq_true, decide_eq_true_eq,
          beq_iff_eq] at h h' ⊢
        rcases h with hab | ⟨rfl, hab⟩
        · rcases h' with hbc | ⟨rfl, -⟩
          · exact .inl (UInt8.lt_trans hab hbc)
          · exact .inl hab
        · rcases h' with hbc | ⟨rfl, hbc⟩
          · exact .inl hbc
          · exact .inr ⟨rfl, ih hab hbc⟩

theorem bytesBefore_of_not {as bs : Bytes} (hne : as ≠ bs) (h : bytesBefore as bs = false) :
    bytesBefore bs as = true := by
  induction as generalizing bs with
  | nil =>
    cases bs with
    | nil => exact absurd rfl hne
    | cons => cases h
  | cons a as ih =>
    cases bs with
    | nil => rfl
    | cons b bs =>
      simp only [bytesBefore, Bool.or_eq_false_iff, decide_eq_false_iff_not] at h
      simp only [bytesBefore, Bool.or_eq_true, Bool.and_eq_true, decide_eq_true_eq, beq_iff_eq]
      obtain ⟨hle, htail⟩ := h
      by_cases hab : a = b
      · subst hab
        simp only [beq_self_eq_true, Bool.true_and] at htail
        exact .inr ⟨rfl, ih (fun hc => hne (hc ▸ rfl)) htail⟩
      · exact .inl (UInt8.lt_of_le_of_ne (UInt8.not_lt.1 hle) (Ne.symm hab))

theorem ne_of_before {k l : Key} (h : k.before l = true) : k ≠ l := by
  rintro rfl
  rw [before, bytesBefore_irrefl] at h
  cases h

theorem before_trans {k l m : Key} (h : k.before l = true) (h' : l.before m = true) :
    k.before m = true :=
  bytesBefore_trans h h'

theorem before_of_not {k l : Key} (hne : k ≠ l) (h : ¬ k.before l = true) : l.before k = true :=
  bytesBefore_of_not (fun hbytes => hne (ext_bytes hbytes)) (Bool.eq_false_iff.2 h)

end Key

namespace Message

/-! ## Adding a use -/

/-- A use covers another of the same key. -/
structure Use.Covers (v u : Use) : Prop where
  key : v.key = u.key
  signer : u.isSigner = true → v.isSigner = true
  writable : u.isWritable = true → v.isWritable = true
  invoked : u.isInvoked = true → v.isInvoked = true

variable {u v w : Use} {us : List Use}

theorem Use.Covers.refl (u : Use) : u.Covers u := ⟨rfl, id, id, id⟩

theorem Use.Covers.trans (h : w.Covers v) (h' : v.Covers u) : w.Covers u where
  key := h.key.trans h'.key
  signer := h.signer ∘ h'.signer
  writable := h.writable ∘ h'.writable
  invoked := h.invoked ∘ h'.invoked

theorem Use.covers_merge_left (u v : Use) : (u.merge v).Covers u := by
  refine ⟨rfl, ?_, ?_, ?_⟩ <;> intro h <;> simp [Use.merge, h]

theorem Use.covers_merge_right (h : v.key = u.key) : (v.merge u).Covers u := by
  refine ⟨h, ?_, ?_, ?_⟩ <;> intro hu <;> simp [Use.merge, hu]

theorem mem_keys_addUse {k : Key} (h : k ∈ (addUse u us).map Use.key) :
    k = u.key ∨ k ∈ us.map Use.key := by
  induction us with
  | nil => exact .inl (List.mem_singleton.1 h)
  | cons v rest ih =>
    unfold addUse at h
    split at h
    · exact .inr h
    split at h
    · exact (List.mem_cons.1 h)
    · rcases List.mem_cons.1 h with rfl | h
      · exact .inr (List.mem_cons_self ..)
      · exact (ih h).imp_right (List.mem_cons_of_mem _)

/-- The uses are sorted by key. -/
def Sorted (us : List Use) : Prop :=
  (us.map Use.key).Pairwise fun k l => k.before l = true

theorem sorted_addUse (u : Use) (h : Sorted us) : Sorted (addUse u us) := by
  induction us with
  | nil => exact List.pairwise_singleton ..
  | cons v rest ih =>
    obtain ⟨hfirst, hrest⟩ := List.pairwise_cons.1 h
    unfold addUse
    split
    · exact h
    · next hne =>
      split
      · next hbefore =>
        -- before the first key is before all of them
        refine List.pairwise_cons.2 ⟨?_, h⟩
        intro k hk
        rcases List.mem_cons.1 hk with rfl | hk
        · exact hbefore
        · exact Key.before_trans hbefore (hfirst k hk)
      · next hbefore =>
        refine List.pairwise_cons.2 ⟨?_, ih hrest⟩
        intro k hk
        rcases mem_keys_addUse hk with rfl | hk
        · exact Key.before_of_not hne hbefore
        · exact hfirst k hk

/-- What was there is still covered. -/
theorem covers_addUse (u : Use) (hw : w ∈ us) : ∃ v ∈ addUse u us, v.Covers w := by
  induction us with
  | nil => cases hw
  | cons v rest ih =>
    unfold addUse
    split
    · rcases List.mem_cons.1 hw with rfl | hw
      · exact ⟨_, List.mem_cons_self .., Use.covers_merge_left w u⟩
      · exact ⟨w, List.mem_cons_of_mem _ hw, .refl w⟩
    split
    · exact ⟨w, List.mem_cons_of_mem _ hw, .refl w⟩
    · rcases List.mem_cons.1 hw with rfl | hw
      · exact ⟨w, List.mem_cons_self .., .refl w⟩
      · obtain ⟨x, hx, hcovers⟩ := ih hw
        exact ⟨x, List.mem_cons_of_mem _ hx, hcovers⟩

/-- What was added is covered. -/
theorem covers_addUse_self (u : Use) (us : List Use) : ∃ v ∈ addUse u us, v.Covers u := by
  induction us with
  | nil => exact ⟨u, List.mem_cons_self .., .refl u⟩
  | cons v rest ih =>
    unfold addUse
    split
    · next hkey => exact ⟨_, List.mem_cons_self .., Use.covers_merge_right hkey.symm⟩
    split
    · exact ⟨u, List.mem_cons_self .., .refl u⟩
    · obtain ⟨x, hx, hcovers⟩ := ih
      exact ⟨x, List.mem_cons_of_mem _ hx, hcovers⟩

/-! ## All uses -/

/-- Adds uses one after the other. -/
def addUses (added us : List Use) : List Use :=
  added.foldl (fun us u => addUse u us) us

theorem uses_eq (payer : Key) (calls : List Call) :
    uses payer calls =
      addUses (calls.flatMap usesOfCall ++ [Use.mk payer true true false]) [] := rfl

theorem sorted_addUses (added : List Use) (h : Sorted us) : Sorted (addUses added us) := by
  induction added generalizing us with
  | nil => exact h
  | cons u rest ih => exact ih (sorted_addUse u h)

theorem covers_addUses (added : List Use) (hw : w ∈ us) : ∃ v ∈ addUses added us, v.Covers w := by
  induction added generalizing us w with
  | nil => exact ⟨w, hw, .refl w⟩
  | cons u rest ih =>
    obtain ⟨x, hx, hcovers⟩ := covers_addUse u hw
    obtain ⟨y, hy, hcovers'⟩ := ih hx
    exact ⟨y, hy, hcovers'.trans hcovers⟩

theorem covers_addUses_self {added : List Use} (hu : u ∈ added) (us : List Use) :
    ∃ v ∈ addUses added us, v.Covers u := by
  induction added generalizing us with
  | nil => cases hu
  | cons first rest ih =>
    rcases List.mem_cons.1 hu with rfl | hu
    · -- covered when it is added, and by whatever covers that from then on
      obtain ⟨x, hx, hcovers⟩ := covers_addUse_self u us
      obtain ⟨y, hy, hcovers'⟩ := covers_addUses rest hx
      exact ⟨y, hy, hcovers'.trans hcovers⟩
    · exact ih hu (addUse first us)

/-- What a use says is said of its key in a list of uses. -/
structure Use.SaidIn (v : Use) (said : List Use) : Prop where
  key : ∃ u ∈ said, u.key = v.key
  signer : v.isSigner = true → ∃ u ∈ said, u.key = v.key ∧ u.isSigner = true
  invoked : v.isInvoked = true → ∃ u ∈ said, u.key = v.key ∧ u.isInvoked = true

theorem Use.saidIn_self {said : List Use} (hu : u ∈ said) : u.SaidIn said :=
  ⟨⟨u, hu, rfl⟩, fun h => ⟨u, hu, rfl, h⟩, fun h => ⟨u, hu, rfl, h⟩⟩

theorem Use.SaidIn.merge {said : List Use} (hv : v.SaidIn said) (hu : u.SaidIn said)
    (hkey : u.key = v.key) : (v.merge u).SaidIn said where
  key := hv.key
  signer h := by
    rcases (Bool.or_eq_true_iff.1 h : v.isSigner = true ∨ u.isSigner = true) with h | h
    · exact hv.signer h
    · exact (hkey ▸ hu.signer h :)
  invoked h := by
    rcases (Bool.or_eq_true_iff.1 h : v.isInvoked = true ∨ u.isInvoked = true) with h | h
    · exact hv.invoked h
    · exact (hkey ▸ hu.invoked h :)

theorem saidIn_addUse {said : List Use} (hu : u.SaidIn said) (h : ∀ v ∈ us, v.SaidIn said) :
    ∀ v ∈ addUse u us, v.SaidIn said := by
  induction us with
  | nil => exact fun v hv => List.mem_singleton.1 hv ▸ hu
  | cons first rest ih =>
    obtain ⟨hfirst, hrest⟩ := List.forall_mem_cons.1 h
    unfold addUse
    split
    · next hkey => exact List.forall_mem_cons.2 ⟨hfirst.merge hu hkey, hrest⟩
    split
    · exact List.forall_mem_cons.2 ⟨hu, h⟩
    · exact List.forall_mem_cons.2 ⟨hfirst, ih hrest⟩

/-- Nothing is said of a key but what was added. -/
theorem saidIn_addUses {said added : List Use} (hadded : ∀ u ∈ added, u.SaidIn said)
    (h : ∀ v ∈ us, v.SaidIn said) : ∀ v ∈ addUses added us, v.SaidIn said := by
  induction added generalizing us with
  | nil => exact h
  | cons u rest ih =>
    obtain ⟨hu, hrest⟩ := List.forall_mem_cons.1 hadded
    exact ih hrest (saidIn_addUse hu h)

section Uses

variable (payer : Key) {calls : List Call}

theorem sorted_uses (calls : List Call) : Sorted (uses payer calls) :=
  sorted_addUses _ .nil

/-- No key is used twice. -/
theorem nodup_uses (calls : List Call) : ((uses payer calls).map Use.key).Nodup :=
  (sorted_uses payer calls).imp Key.ne_of_before

/-- A program that is called is used as one. -/
theorem invoked_uses {c : Call} (hc : c ∈ calls) :
    ∃ v ∈ uses payer calls, v.key = c.program ∧ v.isInvoked = true := by
  have hmem : Use.mk c.program false false true ∈ calls.flatMap usesOfCall :=
    List.mem_flatMap.2 ⟨c, hc, List.mem_cons_self ..⟩
  obtain ⟨v, hv, hcovers⟩ := covers_addUses_self (List.mem_append_left _ hmem) []
  exact ⟨v, hv, hcovers.key, hcovers.invoked rfl⟩

/-- What the uses say of a key, a call says of it, or it is the payer. -/
theorem saidIn_uses {v : Use} (hv : v ∈ uses payer calls) :
    v.SaidIn (calls.flatMap usesOfCall ++ [Use.mk payer true true false]) :=
  saidIn_addUses (fun _ => Use.saidIn_self) (fun _ h => absurd h List.not_mem_nil) v hv

/-- A key that signs is the payer's, or a call has it sign. -/
theorem signer_of_uses {v : Use} (hv : v ∈ uses payer calls) (hsigner : v.isSigner = true) :
    v.key = payer ∨ ∃ c ∈ calls, ∃ a ∈ c.accounts, a.key = v.key ∧ a.isSigner = true := by
  obtain ⟨u, hu, hkey, hflag⟩ := (saidIn_uses payer hv).signer hsigner
  rcases List.mem_append.1 hu with hu | hu
  · obtain ⟨c, hc, hu⟩ := List.mem_flatMap.1 hu
    rcases List.mem_cons.1 hu with rfl | hu
    · cases hflag
    · obtain ⟨a, ha, rfl⟩ := List.mem_map.1 hu
      exact .inr ⟨c, hc, a, ha, hkey, hflag⟩
  · obtain rfl := List.mem_singleton.1 hu
    exact .inl hkey.symm

/-- A key that is called is the program of a call. -/
theorem program_of_uses {v : Use} (hv : v ∈ uses payer calls) (hinvoked : v.isInvoked = true) :
    ∃ c ∈ calls, c.program = v.key := by
  obtain ⟨u, hu, hkey, hflag⟩ := (saidIn_uses payer hv).invoked hinvoked
  rcases List.mem_append.1 hu with hu | hu
  · obtain ⟨c, hc, hu⟩ := List.mem_flatMap.1 hu
    rcases List.mem_cons.1 hu with rfl | hu
    · exact ⟨c, hc, hkey⟩
    · obtain ⟨a, ha, rfl⟩ := List.mem_map.1 hu
      cases hflag
  · obtain rfl := List.mem_singleton.1 hu
    cases hflag

/-- A key that is used is called, or an account of a call, or the payer. -/
theorem source_of_uses {v : Use} (hv : v ∈ uses payer calls) :
    (∃ c ∈ calls, c.program = v.key) ∨ (∃ c ∈ calls, ∃ a ∈ c.accounts, a.key = v.key) ∨
      v.key = payer := by
  obtain ⟨u, hu, hkey⟩ := (saidIn_uses payer hv).key
  rcases List.mem_append.1 hu with hu | hu
  · obtain ⟨c, hc, hu⟩ := List.mem_flatMap.1 hu
    rcases List.mem_cons.1 hu with rfl | hu
    · exact .inl ⟨c, hc, hkey⟩
    · obtain ⟨a, ha, rfl⟩ := List.mem_map.1 hu
      exact .inr (.inl ⟨c, hc, a, ha, hkey⟩)
  · obtain rfl := List.mem_singleton.1 hu
    exact .inr (.inr hkey.symm)

end Uses

end Message

end PoolWatch
