import BenchCompare.Sample.Summary
import Mathlib

/-! # One pass gives the moments of a sample

  One pass adds up the values and their squares and never looks at how far a value
  is from the mean, which is not known before the end.  Where arithmetic is exact
  the result is the same.  Everything here holds over any ordered field.

  * `average values`: the arithmetic mean.
  * `spread values`: the mean of the squared distances from the mean.

  Main statements: `mean_ofList` and `variance_ofList`, with `spread_eq_zero_iff` for
  the samples of equal values.
-/

namespace BenchCompare

section

variable {α : Type} [Field α]

/-- The arithmetic mean of some values. -/
def average (values : List α) : α := values.sum / values.length

/-- The mean of the squared distances of some values from their mean. -/
def spread (values : List α) : α :=
  (values.map fun x => (x - average values) ^ 2).sum / values.length

/-! ### The pass -/

/-- A pass adds the number of the values, their sum and the sum of their squares. -/
theorem foldl_push (s : Sums α) (values : List α) :
    values.foldl Sums.push s = ⟨s.count + values.length, s.total + values.sum,
      s.squareTotal + (values.map fun x => x * x).sum⟩ := by
  induction values generalizing s with
  | nil => simp
  | cons x values ih =>
    rw [List.foldl_cons, ih]
    simp only [Sums.push, List.length_cons, List.sum_cons, List.map_cons, Sums.mk.injEq]
    exact ⟨by omega, by ring, by ring⟩

theorem ofList_eq (values : List α) :
    Sums.ofList values = ⟨values.length, values.sum, (values.map fun x => x * x).sum⟩ := by
  rw [Sums.ofList, foldl_push]
  simp

theorem mean_ofList (values : List α) : (Sums.ofList values).mean = average values := by
  rw [ofList_eq]
  rfl

/-- The squared distances from any number, added up. -/
theorem sum_sq_sub (values : List α) (m : α) :
    (values.map fun x => (x - m) ^ 2).sum =
      (values.map fun x => x * x).sum - 2 * m * values.sum + values.length * m ^ 2 := by
  induction values with
  | nil => simp
  | cons x values ih =>
    simp only [List.map_cons, List.sum_cons, List.length_cons, ih]
    push_cast
    ring

/-! ### The order of the values -/

theorem ofList_perm {values values' : List α} (h : values.Perm values') :
    Sums.ofList values = Sums.ofList values' := by
  rw [ofList_eq, ofList_eq, h.length_eq, h.sum_eq, (h.map _).sum_eq]

variable [LinearOrder α] [IsStrictOrderedRing α]

theorem length_ne_zero {values : List α} (h : values ≠ []) : (values.length : α) ≠ 0 := by
  rw [Nat.cast_ne_zero, ne_eq, List.length_eq_zero_iff]
  exact h

/-- The mean of the squares less the square of the mean is the mean of the squared distances. -/
theorem variance_ofList {values : List α} (h : values ≠ []) :
    (Sums.ofList values).variance = spread values := by
  have hlength := length_ne_zero h
  -- expanded, the squared distances need no other sums than those of the pass
  rw [spread, sum_sq_sub]
  unfold Sums.variance
  rw [mean_ofList, ofList_eq]
  dsimp only
  unfold average
  field_simp
  ring

/-! ### The mean lies among the values -/

theorem le_average {values : List α} {b : α} (h : values ≠ []) (hb : ∀ x ∈ values, b ≤ x) :
    b ≤ average values := by
  have hpos : (0 : α) < values.length := by
    exact_mod_cast List.length_pos_iff.mpr h
  rw [average, le_div_iff₀ hpos, mul_comm]
  simpa using List.card_nsmul_le_sum values b hb

theorem average_le {values : List α} {b : α} (h : values ≠ []) (hb : ∀ x ∈ values, x ≤ b) :
    average values ≤ b := by
  have hpos : (0 : α) < values.length := by
    exact_mod_cast List.length_pos_iff.mpr h
  rw [average, div_le_iff₀ hpos, mul_comm]
  simpa using List.sum_le_card_nsmul values b hb

/-! ### The spread -/

theorem sum_sq_sub_nonneg (values : List α) (m : α) :
    0 ≤ (values.map fun x => (x - m) ^ 2).sum := by
  apply List.sum_nonneg
  intro y hy
  obtain ⟨x, -, rfl⟩ := List.mem_map.mp hy
  exact sq_nonneg (x - m)

theorem sum_sq_sub_eq_zero_iff (values : List α) (m : α) :
    (values.map fun x => (x - m) ^ 2).sum = 0 ↔ ∀ x ∈ values, x = m := by
  induction values with
  | nil => simp
  | cons x values ih =>
    rw [List.map_cons, List.sum_cons,
      add_eq_zero_iff_of_nonneg (sq_nonneg _) (sum_sq_sub_nonneg values m), ih, sq_eq_zero_iff,
      sub_eq_zero, List.forall_mem_cons]

theorem spread_nonneg (values : List α) : 0 ≤ spread values :=
  div_nonneg (sum_sq_sub_nonneg values _) (Nat.cast_nonneg _)

/-- There is no spread exactly if all values are equal. -/
theorem spread_eq_zero_iff {values : List α} (h : values ≠ []) :
    spread values = 0 ↔ ∀ x ∈ values, ∀ y ∈ values, x = y := by
  rw [spread, div_eq_zero_iff, or_iff_left (length_ne_zero h), sum_sq_sub_eq_zero_iff]
  constructor
  · intro hmean x hx y hy
    rw [hmean x hx, hmean y hy]
  · intro heq x hx
    -- the mean lies between the least and the greatest value, which are the same
    apply le_antisymm
    · exact le_average h fun y hy => (heq x hx y hy).le
    · exact average_le h fun y hy => (heq y hy x hx).le

end

/-! ### Main statement -/

/-- What the sums of some values give where arithmetic is exact. -/
structure ExactMoments (values : List ℚ) : Prop where
  /-- The mean is the arithmetic mean. -/
  mean : (Sums.ofList values).mean = average values
  /-- It is not below the least value. -/
  least : ∃ x ∈ values, (∀ y ∈ values, x ≤ y) ∧ x ≤ (Sums.ofList values).mean
  /-- It is not above the greatest value. -/
  greatest : ∃ x ∈ values, (∀ y ∈ values, y ≤ x) ∧ (Sums.ofList values).mean ≤ x
  /-- The variance is the mean of the squared distances from the mean. -/
  variance : (Sums.ofList values).variance = spread values
  /-- It is not negative. -/
  nonneg : 0 ≤ (Sums.ofList values).variance
  /-- It is zero only for equal values. -/
  zero_iff : (Sums.ofList values).variance = 0 ↔ ∀ x ∈ values, ∀ y ∈ values, x = y
  /-- The order of the values does not matter. -/
  order : ∀ values' : List ℚ, values.Perm values' → Sums.ofList values' = Sums.ofList values

theorem exactMoments {values : List ℚ} (h : values ≠ []) : ExactMoments values where
  mean := mean_ofList values
  least := by
    obtain ⟨x, hx, hle⟩ := Set.exists_min_image {y | y ∈ values} id (List.finite_toSet values)
      (List.exists_mem_of_ne_nil values h)
    rw [mean_ofList]
    exact ⟨x, hx, hle, le_average h hle⟩
  greatest := by
    obtain ⟨x, hx, hle⟩ := Set.exists_max_image {y | y ∈ values} id (List.finite_toSet values)
      (List.exists_mem_of_ne_nil values h)
    rw [mean_ofList]
    exact ⟨x, hx, hle, average_le h hle⟩
  variance := variance_ofList h
  nonneg := by
    rw [variance_ofList h]
    exact spread_nonneg values
  zero_iff := by
    rw [variance_ofList h]
    exact spread_eq_zero_iff h
  order := fun _ hperm => (ofList_perm hperm).symm

end BenchCompare
