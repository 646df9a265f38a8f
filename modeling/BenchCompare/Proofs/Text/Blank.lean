import BenchCompare.Text.Blank
import Mathlib.Data.List.DropRight

/-! # Trimmed texts

  What is cut at the end of a text is its longest end of characters that are to
  be cut, and a text that ends in any other character stays as it is.

  * `Trimmed p full cs`: this is the longest start of a text that does not end in a
    character that is to be cut.

  Main statements: `trimmed_trimEnd`, `trimEnd_append_of_cut` and
  `trimEnd_append_of_ne_nil` for a text in two parts, and `trim_append` for a text
  between two that are cut.
-/

namespace BenchCompare.Text

/-- A text is the longest start of another one that does not end in a character that is to be cut. -/
structure Trimmed {α : Type} (p : α → Bool) (full cs : List α) : Prop where
  start : cs <+: full
  last : ∀ c, cs.getLast? = some c → p c = false
  longest : ∀ cs', cs' <+: full → (∀ c, cs'.getLast? = some c → p c = false) → cs'.length ≤ cs.length

variable {α : Type} {p : α → Bool} {before cs after : List α}

theorem trimEnd_eq (p : α → Bool) (cs : List α) : trimEnd p cs = cs.rdropWhile p := rfl

@[simp] theorem trimEnd_nil (p : α → Bool) : trimEnd p [] = [] := rfl

/-- Only characters that are to be cut are cut. -/
theorem exists_trimEnd_append (p : α → Bool) (cs : List α) :
    ∃ after, cs = trimEnd p cs ++ after ∧ ∀ c ∈ after, p c = true := by
  refine ⟨cs.rtakeWhile p, ?_, ?_⟩
  · rw [trimEnd_eq, List.rdropWhile_append_rtakeWhile]
  · intro c hc
    exact List.mem_rtakeWhile_imp hc

theorem trimmed_trimEnd (p : α → Bool) (full : List α) : Trimmed p full (trimEnd p full) := by
  obtain ⟨after, hfull, hcut⟩ := exists_trimEnd_append p full
  refine ⟨⟨after, hfull.symm⟩, ?_, ?_⟩
  · intro c hc
    obtain ⟨hne, rfl⟩ := List.mem_getLast?_eq_getLast hc
    exact eq_false_of_ne_true (List.rdropWhile_last_not p full hne)
  · intro cs' hstart hlast
    by_contra hlonger
    -- What a longer start has more is cut.
    have hmore : trimEnd p full <+: cs' :=
      List.prefix_of_prefix_length_le ⟨after, hfull.symm⟩ hstart (by omega)
    obtain ⟨more, rfl⟩ := hmore
    have hsame : full <+: trimEnd p full ++ after := hfull ▸ List.prefix_rfl
    have hafter : more <+: after := (List.prefix_append_right_inj _).mp (hstart.trans hsame)
    have hne : more ≠ [] := by
      rintro rfl
      simp at hlonger
    have hblank := hcut _ (hafter.subset (List.getLast_mem hne))
    have hsolid : p (more.getLast hne) = false := by
      apply hlast
      rw [List.getLast?_append, List.getLast?_eq_some_getLast hne, Option.some_or]
    cases hblank.symm.trans hsolid

theorem trimEnd_eq_nil_iff : trimEnd p cs = [] ↔ ∀ c ∈ cs, p c = true := by
  rw [trimEnd_eq, List.rdropWhile_eq_nil_iff]

/-- A text that ends in a character that stays is not cut. -/
theorem trimEnd_concat_of_neg {c : α} (h : p c = false) (cs : List α) :
    trimEnd p (cs ++ [c]) = cs ++ [c] := by
  rw [trimEnd_eq, List.rdropWhile_concat_neg]
  simp [h]

theorem trimEnd_concat_of_pos {c : α} (h : p c = true) (cs : List α) :
    trimEnd p (cs ++ [c]) = trimEnd p cs := by
  rw [trimEnd_eq, trimEnd_eq, List.rdropWhile_concat_pos _ _ _ h]

/-- If nothing is left of the end of a text, the rest is trimmed. -/
theorem trimEnd_append_of_cut (h : ∀ c ∈ after, p c = true) (cs : List α) :
    trimEnd p (cs ++ after) = trimEnd p cs := by
  induction after using List.reverseRecOn with
  | nil => rw [List.append_nil]
  | append_singleton after c ih =>
    have hc : p c = true := h c (by simp)
    have hafter : ∀ c' ∈ after, p c' = true := fun c' hc' => h c' (List.mem_append_left _ hc')
    rw [← List.append_assoc, trimEnd_concat_of_pos hc, ih hafter]

/-- If something is left of the end of a text, the rest stays as it is. -/
theorem trimEnd_append_of_ne_nil (h : trimEnd p after ≠ []) (cs : List α) :
    trimEnd p (cs ++ after) = cs ++ trimEnd p after := by
  induction after using List.reverseRecOn with
  | nil => exact absurd (trimEnd_nil p) h
  | append_singleton after c ih =>
    rw [← List.append_assoc]
    by_cases hc : p c = true
    · rw [trimEnd_concat_of_pos hc] at h ⊢
      rw [trimEnd_concat_of_pos hc, ih h]
    · have hstays : p c = false := by simpa using hc
      rw [trimEnd_concat_of_neg hstays, trimEnd_concat_of_neg hstays, List.append_assoc]

/-- What follows a text that is trimmed is trimmed alone. -/
theorem trimEnd_append_of_trimmed (h : trimEnd p cs = cs) (after : List α) :
    trimEnd p (cs ++ after) = cs ++ trimEnd p after := by
  by_cases hafter : trimEnd p after = []
  · rw [trimEnd_append_of_cut (trimEnd_eq_nil_iff.mp hafter), h, hafter, List.append_nil]
  · exact trimEnd_append_of_ne_nil hafter cs

/-- A text that ends in characters that stay is trimmed. -/
theorem trimEnd_append_of_solid (hne : after ≠ []) (h : ∀ c ∈ after, p c = false) (cs : List α) :
    trimEnd p (cs ++ after) = cs ++ after := by
  obtain ⟨rest, c, rfl⟩ := (List.eq_nil_or_concat' after).resolve_left hne
  have hc : p c = false := h c (by simp)
  rw [← List.append_assoc, trimEnd_concat_of_neg hc]

/-- It makes no difference whether other characters that are to be cut are taken out before or after. -/
theorem filter_trimEnd {q : α → Bool} (h : ∀ c, q c = false → p c = true) (cs : List α) :
    (trimEnd p cs).filter q = trimEnd p (cs.filter q) := by
  induction cs using List.reverseRecOn with
  | nil => rfl
  | append_singleton cs c ih =>
    rw [List.filter_append]
    by_cases hq : q c = true
    · have hkept : [c].filter q = [c] := by simp [hq]
      rw [hkept]
      by_cases hp : p c = true
      · rw [trimEnd_concat_of_pos hp, trimEnd_concat_of_pos hp, ih]
      · have hstays : p c = false := by simpa using hp
        rw [trimEnd_concat_of_neg hstays, trimEnd_concat_of_neg hstays, List.filter_append, hkept]
    · have htaken : q c = false := by simpa using hq
      have hnone : [c].filter q = [] := by simp [htaken]
      rw [hnone, List.append_nil, trimEnd_concat_of_pos (h c htaken), ih]

/-! ### Both ends -/

/-- Only characters that are to be cut are cut at the two ends. -/
theorem exists_append_trim_append (p : α → Bool) (cs : List α) :
    ∃ before after, cs = before ++ trim p cs ++ after ∧ (∀ c ∈ before, p c = true) ∧
      ∀ c ∈ after, p c = true := by
  obtain ⟨after, hafter, hcut⟩ := exists_trimEnd_append p (cs.dropWhile p)
  refine ⟨cs.takeWhile p, after, ?_, ?_, hcut⟩
  · calc cs = cs.takeWhile p ++ cs.dropWhile p := List.takeWhile_append_dropWhile.symm
      _ = cs.takeWhile p ++ (trim p cs ++ after) := congrArg _ hafter
      _ = cs.takeWhile p ++ trim p cs ++ after := (List.append_assoc ..).symm
  · intro c hc
    exact List.mem_takeWhile_imp hc

/-- A text that starts and ends with characters that stay is what is left of it between others. -/
theorem trim_append (hbefore : ∀ c ∈ before, p c = true) (hafter : ∀ c ∈ after, p c = true)
    (hfirst : ∃ c rest, cs = c :: rest ∧ p c = false)
    (hlast : ∃ rest c, cs = rest ++ [c] ∧ p c = false) : trim p (before ++ cs ++ after) = cs := by
  obtain ⟨c, rest, hcs, hc⟩ := hfirst
  have hdrop : (before ++ cs ++ after).dropWhile p = cs ++ after := by
    rw [List.append_assoc, List.dropWhile_append_of_pos hbefore, hcs, List.cons_append,
      List.dropWhile_cons_of_neg (by simp [hc])]
  obtain ⟨rest', c', hcs', hc'⟩ := hlast
  rw [trim, hdrop, trimEnd_append_of_cut hafter, hcs', trimEnd_concat_of_neg hc']

end BenchCompare.Text
