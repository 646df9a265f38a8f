import BenchCompare.Decimal.Fixed
import Mathlib

/-! # Rounding to the nearest integer

  An integer is nearest to a number if it is at most one half away from it.  Half
  way between two integers both are nearest, and the even one is taken.

  * `IsNearest q n`: rounding `q` gives `n`.

  Main statements: `isNearest_roundDiv`, that a quotient is rounded so, and
  `IsNearest.mono`, that rounding keeps the order.
-/

namespace BenchCompare.Decimal

/-- The integer is nearest to the number, and it is the even one if there are two nearest. -/
structure IsNearest (q : ℚ) (n : ℤ) : Prop where
  /-- It is at most one half away. -/
  near : |q - n| ≤ 1 / 2
  /-- It is even if it is one half away. -/
  even : |q - n| = 1 / 2 → Even n

namespace IsNearest

variable {p q : ℚ} {n m k : ℤ}

theorem neg (h : IsNearest q n) : IsNearest (-q) (-n) := by
  have habs : |-q - ((-n : ℤ) : ℚ)| = |q - n| := by
    rw [← abs_neg]
    push_cast
    ring_nf
  refine ⟨?_, ?_⟩
  · rw [habs]
    exact h.near
  · rw [habs]
    exact fun htie => (h.even htie).neg

/-- Another integer is at least one half away. -/
theorem half_le (h : IsNearest q n) (hne : k ≠ n) : 1 / 2 ≤ |q - k| := by
  have hnear := h.near
  have hone : (1 : ℚ) ≤ |(n : ℚ) - k| := by
    have hpos : 0 < |n - k| := abs_pos.mpr (sub_ne_zero.mpr hne.symm)
    exact_mod_cast hpos
  have htriangle : |(n : ℚ) - k| ≤ |q - n| + |q - k| := by
    rw [abs_sub_comm q n]
    exact abs_sub_le (n : ℚ) q k
  linarith

/-- No integer is nearer. -/
theorem le (h : IsNearest q n) (k : ℤ) : |q - n| ≤ |q - k| := by
  by_cases hk : k = n
  · rw [hk]
  · exact h.near.trans (h.half_le hk)

/-- If another integer is as near, then this one is even. -/
theorem even_of_eq (h : IsNearest q n) (hne : k ≠ n) (heq : |q - n| = |q - k|) : Even n :=
  h.even (le_antisymm h.near (by rw [heq]; exact h.half_le hne))

/-- Rounding keeps the order. -/
theorem mono (h : IsNearest p n) (h' : IsNearest q m) (hle : p ≤ q) : n ≤ m := by
  by_contra hlt
  have hn := abs_le.mp h.near
  have hm := abs_le.mp h'.near
  have hstep : (m : ℚ) + 1 ≤ n := by exact_mod_cast not_le.mp hlt
  -- Then the two numbers are one, half way between the two integers.
  have hpq : p = q := by linarith
  have hpn : p - n = -(1 / 2) := by linarith
  have hqm : q - m = 1 / 2 := by linarith
  have hnext : n = m + 1 := by
    have : (n : ℚ) = m + 1 := by linarith
    exact_mod_cast this
  have heven : Even n := h.even (by rw [hpn, abs_neg, abs_of_pos (by norm_num)])
  have heven' : Even m := h'.even (by rw [hqm, abs_of_pos (by norm_num)])
  rw [hnext, Int.even_add_one] at heven
  exact heven heven'

end IsNearest

/-- How what a division leaves over compares with one half. -/
theorem half_cases (r : Nat) {den : Nat} (h : 0 < den) :
    ((r : ℚ) / den ≤ 1 / 2 ↔ 2 * r ≤ den) ∧ ((r : ℚ) / den = 1 / 2 ↔ 2 * r = den) := by
  have hden : (0 : ℚ) < den := by exact_mod_cast h
  constructor
  · rw [div_le_div_iff₀ hden (by norm_num), one_mul, mul_comm]
    exact_mod_cast Iff.rfl
  · rw [div_eq_div_iff hden.ne' (by norm_num), one_mul, mul_comm]
    exact_mod_cast Iff.rfl

/-- A quotient is rounded to the nearest natural number, to the even one of two. -/
theorem isNearest_roundDiv (num : Nat) {den : Nat} (h : 0 < den) :
    IsNearest (num / den : ℚ) (roundDiv num den) := by
  have hden : (den : ℚ) ≠ 0 := by exact_mod_cast h.ne'
  have hsplit : (num : ℚ) / den = (num / den : Nat) + (num % den : Nat) / den := by
    have hnum : (num : ℚ) = den * (num / den : Nat) + (num % den : Nat) := by
      exact_mod_cast (Nat.div_add_mod num den).symm
    conv_lhs => rw [hnum]
    field_simp
  have hlt : ((num % den : Nat) : ℚ) / den < 1 := by
    rw [div_lt_one (by positivity)]
    exact_mod_cast Nat.mod_lt num h
  obtain ⟨hle, heq⟩ := half_cases (num % den) h
  have hnonneg : (0 : ℚ) ≤ (num % den : Nat) / den := by positivity
  unfold roundDiv
  rw [hsplit]
  dsimp only
  generalize num / den = n at *
  generalize num % den = r at *
  split
  · next hdown =>
    have hdistance : |(n : ℚ) + r / den - ((n : ℤ) : ℚ)| = r / den := by
      rw [Int.cast_natCast, add_sub_cancel_left, abs_of_nonneg hnonneg]
    constructor
    · rw [hdistance, hle]
      omega
    · rw [hdistance, heq]
      intro htie
      exact_mod_cast Nat.even_iff.mpr (by omega)
  · next hup =>
    have hdistance : |(n : ℚ) + r / den - (((n + 1 : Nat) : ℤ) : ℚ)| = 1 - r / den := by
      rw [← abs_neg, abs_of_nonneg]
      · push_cast
        ring
      · push_cast
        linarith
    have hhalf : 1 / 2 ≤ (r : ℚ) / den := by
      by_contra hbelow
      have hshort := hle.mp (not_le.mp hbelow).le
      have htie := heq.mpr (by omega)
      linarith
    constructor
    · rw [hdistance]
      linarith
    · rw [hdistance]
      intro htie
      have htwice := heq.mp (by linarith)
      exact_mod_cast Nat.even_iff.mpr (by omega)

end BenchCompare.Decimal
