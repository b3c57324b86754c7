import Mathlib.Data.List.Basic
import PoolWatch.Text.Blank

/-! # Pieces between separators

    Cutting a list at a separator and joining the pieces again are the
    library's `List.splitOn` and `List.intercalate`.  A piece holds no
    separator. -/

namespace PoolWatch.Text

variable {α : Type} [BEq α] [LawfulBEq α] {sep : α} {piece : List α}

theorem not_mem_of_mem_splitOn {xs : List α} (h : piece ∈ xs.splitOn sep) : sep ∉ piece := by
  induction xs generalizing piece with
  | nil =>
    obtain rfl : piece = [] := by simpa using h
    exact List.not_mem_nil
  | cons x xs ih =>
    rw [List.splitOn_cons_eq_if_modifyHead] at h
    split at h
    · -- a separator ends the empty piece before it
      rcases List.mem_cons.1 h with rfl | hrest
      · exact List.not_mem_nil
      · exact ih hrest
    · next hx =>
      obtain ⟨first, more, hpieces⟩ := List.exists_cons_of_ne_nil (List.splitOn_ne_nil sep xs)
      rw [hpieces, List.modifyHead_cons] at h
      rcases List.mem_cons.1 h with rfl | hrest
      · have hfirst : sep ∉ first := ih (hpieces ▸ List.mem_cons_self ..)
        have hne : sep ≠ x := fun heq => hx (by simp [heq])
        exact List.not_mem_cons_of_ne_of_not_mem hne hfirst
      · exact ih (hpieces ▸ List.mem_cons_of_mem _ hrest)

/-- The pieces of a text are those of the library. -/
theorem splitChars_eq (sep : Char) (text : List Char) : splitChars sep text = text.splitOn sep := by
  induction text with
  | nil => rfl
  | cons c text ih =>
    obtain ⟨first, more, hpieces⟩ := List.exists_cons_of_ne_nil (List.splitOn_ne_nil sep text)
    rw [splitChars, List.splitOn_cons_eq_if_modifyHead, ih, hpieces]
    by_cases hc : c = sep
    · simp [hc]
    · simp [hc]

end PoolWatch.Text
