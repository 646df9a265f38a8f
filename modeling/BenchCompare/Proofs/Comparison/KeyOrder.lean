import BenchCompare.Proofs.Comparison.Order

/-! # The order of keys

  Keys are compared field by field, and the first field in which they differ decides.
  Texts are compared by code points: the first character in which they differ
  decides, and a text comes before those that go on behind it.  So the order is not
  that of the fields written one behind the other.

  * `FirstDiffer R l l'`: where two lists first differ, `R` holds.
  * `TextBefore s s'`: a text comes before another one.
  * `MetricKey.Before k k'`: a key comes before another one.

  Main statements: `MetricKey.lt_iff_before` and `MetricKey.isStrictTotalOrder_before`.
-/

namespace BenchCompare

/-- Two lists differ somewhere, and where they first do so `R` holds. -/
def FirstDiffer {α : Type} (R : α → α → Prop) (l l' : List α) : Prop :=
  ∃ common a a' rest rest', l = common ++ a :: rest ∧ l' = common ++ a' :: rest' ∧ R a a'

/-- A text comes before another one: the other one goes on behind it, or has a higher code point where
they first differ. -/
def TextBefore (s s' : Text) : Prop :=
  (s.toList <+: s'.toList ∧ s ≠ s') ∨
    FirstDiffer (fun c c' => c.toNat < c'.toNat) s.toList s'.toList

/-- A key comes before another one, since the first field in which they differ does. -/
def MetricKey.Before (k k' : MetricKey) : Prop := FirstDiffer TextBefore k.fields k'.fields

/-! ### Lists -/

section

variable {α : Type} {R : α → α → Prop} {l l' : List α}

theorem FirstDiffer.cons (a : α) (h : FirstDiffer R l l') : FirstDiffer R (a :: l) (a :: l') := by
  obtain ⟨common, b, b', rest, rest', rfl, rfl, hR⟩ := h
  exact ⟨a :: common, b, b', rest, rest', rfl, rfl, hR⟩

theorem FirstDiffer.imp {S : α → α → Prop} (h : FirstDiffer R l l') (hRS : ∀ a a', R a a' → S a a') :
    FirstDiffer S l l' := by
  obtain ⟨common, a, a', rest, rest', hl, hl', hR⟩ := h
  exact ⟨common, a, a', rest, rest', hl, hl', hRS a a' hR⟩

/-- The order of lists is decided where they first differ, and a list is below those that it starts. -/
theorem lex_iff : List.Lex R l l' ↔ (l <+: l' ∧ l ≠ l') ∨ FirstDiffer R l l' := by
  constructor
  · intro h
    induction h with
    | nil => exact .inl ⟨List.nil_prefix, List.cons_ne_nil _ _ |>.symm⟩
    | rel h => exact .inr ⟨[], _, _, _, _, rfl, rfl, h⟩
    | cons _ ih =>
      rcases ih with ⟨hstart, hne⟩ | hdiffer
      · exact .inl ⟨List.cons_prefix_cons.mpr ⟨rfl, hstart⟩, fun h => hne (List.cons.inj h).2⟩
      · exact .inr (hdiffer.cons _)
  · rintro (⟨⟨more, rfl⟩, hne⟩ | ⟨common, a, a', rest, rest', rfl, rfl, hR⟩)
    · obtain ⟨a, more, rfl⟩ := List.exists_cons_of_ne_nil (l := more) (by rintro rfl; simp at hne)
      have hmore : List.Lex R (l ++ []) (l ++ a :: more) := List.Lex.append_left R .nil l
      rwa [List.append_nil] at hmore
    · exact List.Lex.append_left R (.rel hR) common

end

/-! ### Texts and keys -/

theorem lt_iff_textBefore {s s' : Text} : s < s' ↔ TextBefore s s' := by
  have hlex : s < s' ↔ List.Lex (fun c c' : CodePoint => c.toNat < c'.toNat) s.toList s'.toList :=
    Iff.rfl
  rw [hlex, lex_iff, TextBefore, ne_eq, ne_eq, Text.toList_inj]

namespace MetricKey

/-- Keys have equally many fields, so that none of them is only a start of another one. -/
theorem lt_iff_before {k k' : MetricKey} : k < k' ↔ k.Before k' := by
  have hlex : k < k' ↔ List.Lex (· < ·) k.fields k'.fields := Iff.rfl
  have hlength : k.fields.length = k'.fields.length := rfl
  rw [hlex, lex_iff, Before]
  constructor
  · rintro (⟨hstart, hne⟩ | hdiffer)
    · -- A start of the same length is the whole list.
      exact absurd (hstart.eq_of_length hlength) hne
    · exact hdiffer.imp fun _ _ => lt_iff_textBefore.mp
  · intro hdiffer
    exact .inr (hdiffer.imp fun _ _ => lt_iff_textBefore.mpr)

theorem before_iff_fields_lt {k k' : MetricKey} : k.Before k' ↔ k.fields < k'.fields :=
  lt_iff_before.symm

theorem lt_trans {a b c : MetricKey} (hab : a < b) (hbc : b < c) : a < c := by
  rw [lt_iff_before, before_iff_fields_lt] at *
  exact hab.trans hbc

theorem ne_of_lt {a b : MetricKey} (h : a < b) : a ≠ b := by
  rintro rfl
  rw [lt_iff_before, before_iff_fields_lt] at h
  exact lt_irrefl _ h

/-- Of two different keys exactly one comes before the other. -/
theorem isStrictTotalOrder_before : IsStrictTotalOrder MetricKey Before where
  irrefl k h := by
    rw [before_iff_fields_lt] at h
    exact lt_irrefl _ h
  trans a b c hab hbc := by
    rw [before_iff_fields_lt] at *
    exact hab.trans hbc
  trichotomous a b hab hba := by
    rw [before_iff_fields_lt, not_lt] at hab hba
    exact fields_injective (hba.antisymm hab)

/-- Keys that come neither before nor after each other are equal. -/
theorem eq_iff_not_before {k k' : MetricKey} : k = k' ↔ ¬ k.Before k' ∧ ¬ k'.Before k := by
  rw [before_iff_fields_lt, before_iff_fields_lt, not_lt, not_lt]
  constructor
  · rintro rfl
    exact ⟨le_rfl, le_rfl⟩
  · rintro ⟨hge, hle⟩
    exact fields_injective (hle.antisymm hge)

end MetricKey

end BenchCompare
