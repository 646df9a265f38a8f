import BenchCompare.Proofs.Decimal.Ordering
import BenchCompare.Proofs.Sample.Maximum

/-! # The maximum is the first of the largest values

  Values that are no numbers lie nowhere in the order, and the two zeros lie in one
  place.  So a sample may have several values that are largest, and which of them
  the maximum is depends on the scan.

  * `IsLargest sample m`: no number of the sample is above `m`.
  * `IsFirstLargest sample m`: `m` is the first such value in the sample.
  * `numbers sample`: the values that are numbers.

  The scan keeps what it has until it meets a number above that.  `Scanned` is the
  invariant, with a lemma for each kind of step, and `scanned_maximumFrom` is the
  run.

  Main statement: `maximum_of_sample`.
-/

namespace BenchCompare

open Decimal (isNaN_of_le isNaN_of_lt le_self le_of_le_of_le le_and_not_le_of_lt le_of_not_lt
  eq_or_zeros_of_le_of_le)

/-- No number of the sample is above the value. -/
def IsLargest (sample : List Float) (m : Float) : Prop := ∀ x ∈ sample, x.isNaN = false → x ≤ m

/-- The value is the first in the sample that no number of the sample is above. -/
def IsFirstLargest (sample : List Float) (m : Float) : Prop :=
  ∃ before after, sample = before ++ m :: after ∧ IsLargest sample m ∧
    ∀ x ∈ before, ¬ IsLargest sample x

/-- The values of a sample that are numbers. -/
def numbers (sample : List Float) : List Float := sample.filter fun x => !x.isNaN

/-- What a scan over some values has found: a number that no number of them is above, and that is
above all that come before it. -/
structure Scanned (values : List Float) (m : Float) : Prop where
  /-- It is a number. -/
  number : m.isNaN = false
  /-- No number is above it. -/
  largest : IsLargest values m
  /-- It is one of the values, and is not below any value before it or beside it. -/
  first : ∃ before after, values = before ++ m :: after ∧ ∀ x ∈ before, ¬ m ≤ x

/-! ### Scanning -/

section

variable {sample sample' values : List Float} {start x m m' : Float}

theorem scanned_singleton (h : start.isNaN = false) : Scanned [start] start where
  number := h
  largest := by
    intro x hx _
    rw [List.mem_singleton.mp hx]
    exact le_self h
  first := ⟨[], [], rfl, nofun⟩

/-- What is no number is passed over. -/
theorem Scanned.skip (h : Scanned values m) (hx : x.isNaN = true) : Scanned (x :: values) m where
  number := h.number
  largest := by
    rintro y (_ | hy) hnumber
    · rw [hx] at hnumber
      cases hnumber
    · exact h.largest y ‹_› hnumber
  first := by
    obtain ⟨before, after, rfl, hbefore⟩ := h.first
    refine ⟨x :: before, after, rfl, ?_⟩
    rintro y (_ | hy) hle
    · rw [(isNaN_of_le hle).2] at hx
      cases hx
    · exact hbefore y ‹_› hle

/-- A number above the start takes its place. -/
theorem Scanned.replace (h : Scanned (x :: values) m) (hlt : start < x) :
    Scanned (start :: x :: values) m := by
  obtain ⟨hle, hnot⟩ := le_and_not_le_of_lt hlt
  have hx : x ≤ m := h.largest x List.mem_cons_self (isNaN_of_lt hlt).2
  refine ⟨h.number, ?_, ?_⟩
  · rintro y (_ | hy) hnumber
    · exact le_of_le_of_le hle hx
    · exact h.largest y ‹_› hnumber
  · obtain ⟨before, after, hvalues, hbefore⟩ := h.first
    refine ⟨start :: before, after, by rw [hvalues]; rfl, ?_⟩
    rintro y (_ | hy) hm
    · exact hnot (le_of_le_of_le hx hm)
    · exact hbefore y ‹_› hm

/-- The start stays where the next value is no number above it. -/
theorem Scanned.keep (h : Scanned (start :: values) m) (hstart : start.isNaN = false)
    (hlt : ¬ start < x) : Scanned (start :: x :: values) m := by
  have hbelow : x.isNaN = false → x ≤ start := fun hx => le_of_not_lt hstart hx hlt
  have hm : start ≤ m := h.largest start List.mem_cons_self hstart
  refine ⟨h.number, ?_, ?_⟩
  · intro y hy hnumber
    rcases List.mem_cons.mp hy with rfl | hy
    · exact hm
    · rcases List.mem_cons.mp hy with rfl | hy
      · exact le_of_le_of_le (hbelow hnumber) hm
      · exact h.largest y (List.mem_cons_of_mem start hy) hnumber
  · obtain ⟨before, after, hvalues, hbefore⟩ := h.first
    -- Either the start itself is the first of the largest, or it comes before it.
    cases before with
    | nil =>
      obtain ⟨rfl, rfl⟩ := List.cons.inj hvalues
      exact ⟨[], x :: values, rfl, nofun⟩
    | cons first before =>
      obtain ⟨rfl, rfl⟩ := List.cons.inj hvalues
      refine ⟨start :: x :: before, after, rfl, ?_⟩
      intro y hy hle
      rcases List.mem_cons.mp hy with rfl | hy
      · exact hbefore y List.mem_cons_self hle
      · rcases List.mem_cons.mp hy with rfl | hy
        · exact hbefore start List.mem_cons_self
            (le_of_le_of_le hle (hbelow (isNaN_of_le hle).2))
        · exact hbefore y (List.mem_cons_of_mem start hy) hle

/-- A scan that starts with a number has the first of the largest values in the end. -/
theorem scanned_maximumFrom (h : start.isNaN = false) (values : List Float) :
    Scanned (start :: values) (maximumFrom start values) := by
  induction values generalizing start with
  | nil => exact scanned_singleton h
  | cons x values ih =>
    show Scanned _ (maximumFrom (if start < x then x else start) values)
    by_cases hlt : start < x
    · rw [if_pos hlt]
      exact (ih (isNaN_of_lt hlt).2).replace hlt
    · rw [if_neg hlt]
      exact (ih h).keep h hlt

theorem maximumFrom_cons_of_isNaN (hx : x.isNaN = true) (values : List Float) :
    maximumFrom start (x :: values) = maximumFrom start values := by
  have hlt : ¬ start < x := by
    intro hlt
    rw [(isNaN_of_lt hlt).2] at hx
    cases hx
  show maximumFrom (if start < x then x else start) values = _
  rw [if_neg hlt]

/-- The start at negative infinity is lost at the first number. -/
theorem scanned_of_number (h : ∃ x ∈ values, x.isNaN = false) :
    Scanned values (maximumFrom negInfinity values) := by
  induction values with
  | nil => exact absurd h (by simp)
  | cons x values ih =>
    cases hx : x.isNaN with
    | false =>
      rw [maximumFrom_negInfinity_cons hx]
      exact scanned_maximumFrom hx values
    | true =>
      rw [maximumFrom_cons_of_isNaN hx]
      refine (ih ?_).skip hx
      obtain ⟨y, hy, hnumber⟩ := h
      rcases List.mem_cons.mp hy with rfl | hy
      · rw [hx] at hnumber
        cases hnumber
      · exact ⟨y, hy, hnumber⟩

theorem Scanned.isFirstLargest (h : Scanned values m) : IsFirstLargest values m := by
  obtain ⟨before, after, hvalues, hbefore⟩ := h.first
  refine ⟨before, after, hvalues, h.largest, ?_⟩
  intro x hx hlargest
  have hmem : m ∈ values := by
    rw [hvalues]
    exact List.mem_append_right before List.mem_cons_self
  exact hbefore x hx (hlargest m hmem h.number)

theorem Scanned.mem (h : Scanned values m) : m ∈ values := by
  obtain ⟨before, after, hvalues, -⟩ := h.first
  rw [hvalues]
  exact List.mem_append_right before List.mem_cons_self

/-! ### What has no influence -/

theorem maximumFrom_numbers (start : Float) (sample : List Float) :
    maximumFrom start (numbers sample) = maximumFrom start sample := by
  induction sample generalizing start with
  | nil => rfl
  | cons x sample ih =>
    cases hx : x.isNaN with
    | true =>
      have hskip : numbers (x :: sample) = numbers sample :=
        List.filter_cons_of_neg (by rw [hx]; decide)
      rw [maximumFrom_cons_of_isNaN hx, hskip, ih]
    | false =>
      have hkeep : numbers (x :: sample) = x :: numbers sample :=
        List.filter_cons_of_pos (by rw [hx]; decide)
      rw [hkeep]
      exact ih _

theorem ofSample_of_ne_nil (h : sample ≠ []) : Summary.ofSample sample =
    ⟨(Sums.ofList sample).mean, deviation (Sums.ofList sample).variance,
      maximumFrom negInfinity sample⟩ := by
  cases sample with
  | nil => exact absurd rfl h
  | cons x sample => rfl

theorem maximum_ofSample (h : sample ≠ []) :
    (Summary.ofSample sample).maximum = maximumFrom negInfinity sample := by
  rw [ofSample_of_ne_nil h]

theorem maximumFrom_of_isNaN (h : ∀ x ∈ sample, x.isNaN = true) :
    maximumFrom negInfinity sample = negInfinity := by
  have hnone : numbers sample = [] := by
    rw [numbers, List.filter_eq_nil_iff]
    intro x hx
    rw [h x hx]
    decide
  rw [← maximumFrom_numbers, hnone]
  rfl

/-- A sample has a number in it, or nothing but what is no number. -/
theorem exists_number_or_forall (sample : List Float) :
    (∃ x ∈ sample, x.isNaN = false) ∨ ∀ x ∈ sample, x.isNaN = true := by
  by_cases h : ∃ x ∈ sample, x.isNaN = false
  · exact .inl h
  · refine .inr fun x hx => ?_
    by_contra hnumber
    exact h ⟨x, hx, Bool.not_eq_true _ ▸ hnumber⟩

/-- Two arrangements of one sample have one maximum, but for the sign of a zero. -/
theorem Scanned.eq_or_zeros_of_perm (h : Scanned sample m) (h' : Scanned sample' m')
    (hperm : sample.Perm sample') : m = m' ∨ (m = 0 ∧ m' = -0) ∨ (m = -0 ∧ m' = 0) := by
  apply eq_or_zeros_of_le_of_le
  · exact h'.largest m (hperm.mem_iff.mp h.mem) h.number
  · exact h.largest m' (hperm.mem_iff.mpr h'.mem) h'.number

end

/-! ### Main statement -/

/-- What the maximum of a sample is. -/
structure IsMaximum (sample : List Float) (m : Float) : Prop where
  /-- Only an empty sample has none. -/
  undefined : m.isNaN = true ↔ sample = []
  /-- Where nothing is a number, it is negative infinity. -/
  lowest : sample ≠ [] → (∀ x ∈ sample, x.isNaN = true) → m = negInfinity
  /-- Otherwise it is the first of the values that no number is above. -/
  first : (∃ x ∈ sample, x.isNaN = false) → IsFirstLargest sample m

theorem isMaximum_ofSample (sample : List Float) :
    IsMaximum sample (Summary.ofSample sample).maximum := by
  by_cases hne : sample = []
  · subst hne
    exact ⟨iff_of_true rfl rfl, fun h => absurd rfl h, fun h => absurd h (by simp)⟩
  · rw [maximum_ofSample hne]
    rcases exists_number_or_forall sample with hnumber | hnone
    · have hscan := scanned_of_number hnumber
      refine ⟨iff_of_false ?_ hne, ?_, fun _ => hscan.isFirstLargest⟩
      · rw [hscan.number]
        exact Bool.false_ne_true
      · intro _ hall
        obtain ⟨x, hx, hnumber⟩ := hnumber
        rw [hall x hx] at hnumber
        cases hnumber
    · rw [maximumFrom_of_isNaN hnone]
      refine ⟨iff_of_false (by decide) hne, fun _ _ => rfl, ?_⟩
      rintro ⟨x, hx, hnumber⟩
      rw [hnone x hx] at hnumber
      cases hnumber

/-- **The maximum is the first of the largest values.**  What is no number has no influence on it, and
another arrangement of the sample changes at most the sign of a zero. -/
theorem maximum_of_sample (sample : List Float) :
    IsMaximum sample (Summary.ofSample sample).maximum ∧
      (∀ sample' : List Float, sample ≠ [] → sample' ≠ [] → numbers sample' = numbers sample →
        (Summary.ofSample sample').maximum = (Summary.ofSample sample).maximum) ∧
      ∀ sample' : List Float, sample.Perm sample' →
        let m := (Summary.ofSample sample).maximum
        let m' := (Summary.ofSample sample').maximum
        m = m' ∨ (m = 0 ∧ m' = -0) ∨ (m = -0 ∧ m' = 0) := by
  refine ⟨isMaximum_ofSample sample, ?_, ?_⟩
  · intro sample' hne hne' hsame
    rw [maximum_ofSample hne, maximum_ofSample hne', ← maximumFrom_numbers, hsame,
      maximumFrom_numbers]
  · intro sample' hperm
    show _ ∨ _
    by_cases hne : sample = []
    · subst hne
      rw [List.nil_perm.mp hperm]
      exact .inl rfl
    · have hne' : sample' ≠ [] := by
        rintro rfl
        exact hne (List.perm_nil.mp hperm)
      rw [maximum_ofSample hne, maximum_ofSample hne']
      rcases exists_number_or_forall sample with ⟨x, hx, hnumber⟩ | hnone
      · have hscan := scanned_of_number ⟨x, hx, hnumber⟩
        have hscan' := scanned_of_number ⟨x, hperm.mem_iff.mp hx, hnumber⟩
        exact hscan.eq_or_zeros_of_perm hscan' hperm
      · have hnone' : ∀ x ∈ sample', x.isNaN = true := fun x hx => hnone x (hperm.mem_iff.mpr hx)
        rw [maximumFrom_of_isNaN hnone, maximumFrom_of_isNaN hnone']
        exact .inl rfl

/-- Of two zeros the first one is taken, and what is no number is not. -/
example : (Summary.ofSample [Float.ofBits 0xBFF0000000000000, nan, -0, 0]).maximum = -0 := rfl

end BenchCompare
