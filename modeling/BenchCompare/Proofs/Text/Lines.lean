import BenchCompare.Text.Lines
import Mathlib.Algebra.GroupWithZero.Nat

/-! # Parts of texts

  A text that is split has one part more than it has separators.  If the text was
  made of parts, these are found again, provided that no separator is in any of
  them.

  Main statements: `length_splitOn_intercalate` and `splitOn_intercalate`.
-/

namespace BenchCompare.Text

variable {α : Type} [DecidableEq α]

theorem splitOn_eq (separator : α) (cs : List α) :
    splitOn separator cs = cs.splitOn separator := by
  induction cs with
  | nil => rw [List.splitOn_nil]; rfl
  | cons c cs ih =>
    unfold splitOn
    rw [List.splitOn_cons_eq_if_modifyHead, ih]
    simp only [beq_iff_eq]
    split
    · rfl
    · cases hparts : cs.splitOn separator with
      | nil => exact absurd hparts (List.splitOn_ne_nil _ _)
      | cons part parts => rfl

theorem not_mem_of_mem_splitOn (separator : α) {cs part : List α}
    (h : part ∈ splitOn separator cs) : separator ∉ part := by
  induction cs generalizing part with
  | nil =>
    obtain rfl := List.mem_singleton.mp h
    exact List.not_mem_nil
  | cons c cs ih =>
    unfold splitOn at h
    split at h
    · rcases List.mem_cons.mp h with rfl | h
      · exact List.not_mem_nil
      · exact ih h
    · next hc =>
      split at h
      · obtain rfl := List.mem_singleton.mp h
        rw [List.mem_singleton]
        exact Ne.symm hc
      · next first parts hsplit =>
        rw [hsplit] at ih
        rcases List.mem_cons.mp h with rfl | h
        · rw [List.mem_cons, not_or]
          exact ⟨Ne.symm hc, ih List.mem_cons_self⟩
        · exact ih (List.mem_cons_of_mem first h)

theorem length_splitOn (separator : α) (cs : List α) :
    (splitOn separator cs).length = cs.count separator + 1 := by
  induction cs with
  | nil => rfl
  | cons c cs ih =>
    unfold splitOn
    by_cases hc : c = separator
    · rw [if_pos hc, List.length_cons, ih, hc, List.count_cons_self]
    · rw [if_neg hc, List.count_cons_of_ne hc, ← ih]
      cases hsplit : splitOn separator cs with
      | nil =>
        rw [hsplit] at ih
        cases ih
      | cons part parts => rfl

/-! ### Texts made of parts -/

variable {separator : α} {parts : List (List α)}

/-- Each part counts once, and once more for each separator in it. -/
theorem length_splitOn_intercalate (h : parts ≠ []) :
    (splitOn separator ([separator].intercalate parts)).length =
      (parts.map fun part => part.count separator + 1).sum := by
  rw [length_splitOn]
  induction parts with
  | nil => exact absurd rfl h
  | cons part parts ih =>
    by_cases hparts : parts = []
    · subst hparts
      simp
    · rw [List.intercalate_cons_of_ne_nil hparts, List.map_cons, List.sum_cons, ← ih hparts,
        List.count_append, List.count_append, List.count_singleton_self]
      omega

theorem splitOn_intercalate (hmem : ∀ part ∈ parts, separator ∉ part) (h : parts ≠ []) :
    splitOn separator ([separator].intercalate parts) = parts := by
  rw [splitOn_eq]
  exact List.splitOn_intercalate separator hmem h

end BenchCompare.Text
