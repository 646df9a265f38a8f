import BenchCompare.Decimal.Exact
import Mathlib.Algebra.Order.Field.Power
import Mathlib.Algebra.Order.Floor.Ring
import Mathlib.Data.Rat.Floor
import Mathlib.Tactic.Linarith

/-! # Numbers and their whole parts

  A finite binary64 number is a rational number.  Its *whole part* is what is left
  if the places after the point are cut off: the next integer towards zero.

  * `Exact.rational?`: the rational number, unless there is none.
  * `wholePart`: the whole part of a rational number.

  Main statements: `intCast_wholePart_eq_iff`, that cutting off changes a number
  exactly if it is no integer, and `abs_sub_wholePart_lt_one`.
-/

namespace BenchCompare.Decimal

/-- The rational number that is the exact value of a binary64 number. -/
def Exact.rational? : Exact → Option ℚ
  | .nan | .infinite _ => none
  | .finite negative m e => some (if negative then -(m * 2 ^ e) else m * 2 ^ e)

/-- The next integer towards zero. -/
def wholePart (q : ℚ) : ℤ := if q < 0 then ⌈q⌉ else ⌊q⌋

/-! ### Kinds of numbers -/

theorem ofFloat_eq_nan_iff (x : Float) : Exact.ofFloat x = .nan ↔ x.isNaN = true := by
  show _ ↔ x.toModel.unpack.isNaN = true
  unfold Exact.ofFloat
  cases x.toModel.unpack with
  | notANumber => exact iff_of_true rfl rfl
  | infinity s => exact iff_of_false nofun nofun
  | zero s => exact iff_of_false nofun nofun
  | finite s m e h => exact iff_of_false nofun nofun

theorem ofFloat_eq_infinite_iff (x : Float) :
    (∃ negative, Exact.ofFloat x = .infinite negative) ↔ x.isInf = true := by
  show _ ↔ x.toModel.unpack.isInf = true
  unfold Exact.ofFloat
  cases x.toModel.unpack with
  | notANumber => exact iff_of_false nofun nofun
  | infinity s => exact iff_of_true ⟨_, rfl⟩ rfl
  | zero s => exact iff_of_false nofun nofun
  | finite s m e h => exact iff_of_false nofun nofun

theorem isInf_eq_false_of_isNaN {x : Float} (h : x.isNaN = true) : x.isInf = false := by
  rw [← ofFloat_eq_nan_iff] at h
  rw [← Bool.not_eq_true, ← ofFloat_eq_infinite_iff, h]
  rintro ⟨negative, hinfinite⟩
  cases hinfinite

/-! ### Whole parts -/

section

variable {q : ℚ}

theorem wholePart_of_neg (h : q < 0) : wholePart q = ⌈q⌉ := if_pos h

theorem wholePart_of_nonneg (h : 0 ≤ q) : wholePart q = ⌊q⌋ := if_neg (not_lt.mpr h)

@[simp] theorem wholePart_intCast (n : ℤ) : wholePart n = n := by
  unfold wholePart
  rw [Int.ceil_intCast, Int.floor_intCast, ite_self]

/-- A number and its negative have whole parts of the same size. -/
theorem wholePart_neg (q : ℚ) : wholePart (-q) = -wholePart q := by
  by_cases hneg : q < 0
  · rw [wholePart_of_neg hneg, wholePart_of_nonneg (by linarith), Int.floor_neg]
  · by_cases hzero : q = 0
    · subst hzero
      rfl
    · have hpos : 0 < q := lt_of_le_of_ne (not_lt.mp hneg) (Ne.symm hzero)
      rw [wholePart_of_nonneg hpos.le, wholePart_of_neg (by linarith), Int.ceil_neg]

/-- Cutting off changes a number exactly if it is no integer. -/
theorem intCast_wholePart_eq_iff : (wholePart q : ℚ) = q ↔ ∃ n : ℤ, q = n := by
  constructor
  · intro h
    exact ⟨wholePart q, h.symm⟩
  · rintro ⟨n, rfl⟩
    rw [wholePart_intCast]

theorem abs_sub_wholePart_lt_one (q : ℚ) : |q - wholePart q| < 1 := by
  rw [abs_lt]
  by_cases hneg : q < 0
  · rw [wholePart_of_neg hneg]
    have hle := Int.le_ceil q
    have hlt := Int.ceil_lt_add_one q
    constructor <;> linarith
  · rw [wholePart_of_nonneg (not_lt.mp hneg)]
    have hle := Int.floor_le q
    have hlt := Int.lt_floor_add_one q
    constructor <;> linarith

/-- A negative number is cut to one that is not negative exactly if it lies above minus one. -/
theorem wholePart_nonneg_iff : 0 ≤ wholePart q ↔ -1 < q := by
  by_cases hneg : q < 0
  · rw [wholePart_of_neg hneg, ← Int.sub_one_lt_iff, zero_sub, Int.lt_ceil]
    norm_num
  · have hnonneg := not_lt.mp hneg
    rw [wholePart_of_nonneg hnonneg]
    exact iff_of_true (Int.floor_nonneg.mpr hnonneg) (by linarith)

theorem wholePart_nonpos (h : q < 0) : wholePart q ≤ 0 := by
  rw [wholePart_of_neg h, Int.ceil_le]
  exact_mod_cast h.le

end

/-! ### Quotients -/

theorem numerator_div_denominator (m : Nat) (e : Int) :
    (numerator m e : ℚ) / denominator e = m * 2 ^ e := by
  have hsplit : e = (e.toNat : Int) - ((-e).toNat : Int) := by omega
  have hpow : (2 : ℚ) ^ e = 2 ^ e.toNat / 2 ^ (-e).toNat := by
    conv_lhs => rw [hsplit]
    rw [zpow_sub₀ (by norm_num), zpow_natCast, zpow_natCast]
  unfold numerator denominator
  rw [hpow, Nat.pow_eq, Nat.pow_eq]
  push_cast
  ring

/-- Dividing without a remainder is cutting off. -/
theorem wholePart_magnitude (m : Nat) (e : Int) :
    wholePart (m * 2 ^ e) = (numerator m e / denominator e : Nat) := by
  have hnonneg : (0 : ℚ) ≤ m * 2 ^ e := by positivity
  rw [wholePart_of_nonneg hnonneg, ← numerator_div_denominator, Rat.floor_natCast_div_natCast]
  rfl

end BenchCompare.Decimal
