import BenchCompare.Proofs.Decimal.Ordering
import BenchCompare.Proofs.Decimal.Overflow
import Mathlib

/-! # Square roots

  The root of `m * 2 ^ e` is taken in integers: `m` is shifted until it has 105 or
  106 bits, so that its integer root has 53, and what the integer root leaves over
  tells which of the two next integers is nearer to the root.  Both are never
  equally near, because the square of a half-integer is no integer.

  * `radicand m e`: the shifted mantissa.
  * `rootExponent m e`: the exponent of the root.
  * `roundedRoot n`: the integer nearest to the root of `n`.

  Main statement: `exists_hasValue_sqrt`, that a number that is not negative has a
  root, and how near that is to the exact one.
-/

namespace BenchCompare.Decimal

open Float.Model Float.Model.UnpackedFloat

/-! ### Numbers of full length -/

section

variable {m : Nat} {e : Int}

/-- Where the exponent is neither the least nor the greatest, the mantissa has full length. -/
theorem unpack_packComponents (s : Sign) {b : BitVec 11} (hleast : b ≠ 0#11) (hmost : b ≠ -1#11)
    (v : BitVec 52) : UnpackedFloat.unpack Format.binary64 (packComponents Format.binary64 s b v) =
      .finite s (2 ^ 52 + v.toNat) ((b.toNat : Int) - 1075) (by omega) := by
  have hsign : Sign.ofBitVec s.toBitVec = s := by cases s <;> rfl
  have hbias : ((Format.exponentBias Format.binary64 : Nat) : Int) = 1023 := rfl
  simp only [UnpackedFloat.unpack, unpackExponent_packComponents, unpackMantissa_packComponents,
    unpackSign_packComponents, hsign, hbias]
  rw [if_neg hmost, if_neg hleast, UnpackedFloat.finite.injEq]
  refine ⟨rfl, toNat_leading_append v, ?_⟩
  show (b.toNat : Int) - (1023 + ((52 : Nat) : Int)) = _
  omega

/-- What is packed at full length is read again. -/
theorem unpack_pack_of_full (s : Sign) (h : 0 < m) (hfull : 2 ^ 52 ≤ m) (hshort : m < 2 ^ 53)
    (hleast : -1074 ≤ e) (hmost : e < 972) :
    (Float.Model.pack (.finite s m e h)).unpack = .finite s m e h := by
  have hbias : ((Format.exponentBias Format.binary64 : Nat) : Int) = 1023 := rfl
  obtain ⟨b, hb⟩ : ∃ b : Nat, (b : Int) = e + 1075 := ⟨(e + 1075).toNat, by omega⟩
  have hexponent : (e + 1023 + ((52 : Nat) : Int)).toNat = b := by omega
  have hlength : m.log2 + 1 = Format.binary64.mantissaBits :=
    congrArg (· + 1) ((Nat.log2_eq_iff h.ne').mpr ⟨hfull, hshort⟩)
  have hbits : (BitVec.ofNat 11 b).toNat = b := by
    rw [BitVec.toNat_ofNat]
    omega
  have hpack : UnpackedFloat.pack Format.binary64 (.finite s m e h) =
      packComponents Format.binary64 s (BitVec.ofNat 11 b) (BitVec.ofNat 52 m) := by
    simp only [UnpackedFloat.pack, hbias]
    rw [hexponent, if_neg (by omega), if_pos hlength]
  show UnpackedFloat.unpack Format.binary64 (UnpackedFloat.pack Format.binary64 (.finite s m e h)) = _
  rw [hpack, unpack_packComponents, UnpackedFloat.finite.injEq, hbits, BitVec.toNat_ofNat]
  · exact ⟨rfl, by omega, by omega⟩
  · intro hzero
    rw [hzero] at hbits
    replace hbits : 0 = b := hbits
    omega
  · intro hones
    rw [hones] at hbits
    replace hbits : 2047 = b := hbits
    omega

/-- What is rounded at full length keeps it, if it is not carried to the next exponent. -/
theorem round_of_full (s : Sign) {r : Nat} {acc : Accuracy} (hfull : 2 ^ 52 ≤ m) (hshort : m < 2 ^ 53)
    (hleast : -1074 ≤ e) (hmost : e < 971)
    (hr : (ExtendedMantissa.ofMantissaAndAccuracy m acc).roundedMantissa = r) :
    ∃ m' e' h', roundWithAccuracy Format.binary64 s m e acc = .finite s m' e' h' ∧
      2 ^ 52 ≤ m' ∧ m' < 2 ^ 53 ∧ -1074 ≤ e' ∧ e' < 972 ∧ (m' : ℚ) * 2 ^ e' = r * 2 ^ e := by
  have hdrop : droppedBits m e = 0 := droppedBits_of_lt hshort hleast
  have hshift : (ExtendedMantissa.ofMantissaAndAccuracy m acc >>> droppedBits m e).roundedMantissa =
      r := by
    rw [hdrop]
    exact hr
  -- Rounding goes up, so the mantissa does not get shorter.
  have hle : m ≤ r := by
    rw [← hr]
    refine le_trans ?_ (roundedMantissa_bounds _).1
    rw [mantissa_ofMantissaAndAccuracy]
  rcases roundWithAccuracy_cases s e hshift with
    ⟨hzero, -⟩ | ⟨hpos, hlt, hround⟩ | ⟨hcarry, hround⟩
  · omega
  · rw [hdrop, Nat.cast_zero, add_zero] at hround
    exact ⟨r, e, hpos, hround, by omega, hlt, hleast, by omega, rfl⟩
  · rw [hdrop, Nat.cast_zero, add_zero] at hround
    refine ⟨2 ^ 52, e + 1, _, hround, le_rfl, by decide, by omega, by omega, ?_⟩
    rw [hcarry, zpow_add_one₀ two_ne_zero]
    push_cast
    ring

end

/-! ### Roots of integers -/

/-- On which side of the integer root the exact root lies. -/
def rootAccuracy (n : Nat) : Accuracy :=
  if n - n.sqrt * n.sqrt = 0 then .exact
  else .inexact (if n - n.sqrt * n.sqrt ≤ n.sqrt then .lt else .gt)

/-- The integer nearest to the root of an integer. -/
def roundedRoot (n : Nat) : Nat := if n - n.sqrt * n.sqrt ≤ n.sqrt then n.sqrt else n.sqrt + 1

theorem roundedMantissa_root (n : Nat) :
    (ExtendedMantissa.ofMantissaAndAccuracy n.sqrt (rootAccuracy n)).roundedMantissa =
      roundedRoot n := by
  unfold rootAccuracy roundedRoot
  by_cases hexact : n - n.sqrt * n.sqrt = 0
  · rw [if_pos hexact, hexact, if_pos (Nat.zero_le _)]
    rfl
  · rw [if_neg hexact]
    split <;> rfl

theorem abs_roundedRoot_sub_le (n : Nat) : |(roundedRoot n : ℝ) - √n| ≤ 1 / 2 := by
  have hle : n.sqrt * n.sqrt ≤ n := Nat.sqrt_le n
  have hlt : n < (n.sqrt + 1) * (n.sqrt + 1) := Nat.lt_succ_sqrt n
  unfold roundedRoot
  generalize n.sqrt = root at *
  rw [abs_sub_le_iff]
  split
  · next hbelow =>
    have hlower : (root : ℝ) ≤ √n := by
      apply Real.le_sqrt_of_sq_le
      rw [sq]
      exact_mod_cast hle
    have hupper : √n ≤ root + 1 / 2 := by
      rw [Real.sqrt_le_left (by positivity)]
      have hrest : (n : ℝ) ≤ root * root + root := by
        exact_mod_cast (show n ≤ root * root + root by omega)
      linarith
    constructor <;> linarith
  · next habove =>
    -- What is left over is an integer, so it is more than one half above the root.
    have hlower : (root : ℝ) + 1 / 2 ≤ √n := by
      apply Real.le_sqrt_of_sq_le
      have hrest : (root : ℝ) * root + root + 1 ≤ n := by
        exact_mod_cast (show root * root + root + 1 ≤ n by omega)
      linarith
    have hupper : √n ≤ root + 1 := by
      rw [Real.sqrt_le_left (by positivity), sq]
      exact_mod_cast hlt.le
    push_cast
    constructor <;> linarith

/-! ### Roots of numbers -/

/-- The exponent of the root of a number. -/
def rootExponent (m : Nat) (e : Int) : Int := (m.log2 + e + 2) / 2 - 53

/-- The mantissa whose integer root is taken. -/
def radicand (m : Nat) (e : Int) : Nat := m <<< (e - 2 * rootExponent m e).toNat

section

variable {m : Nat} {e : Int}

theorem rootExponent_bounds (h : 0 < m) (hm : IsCanonical m e) :
    2 * rootExponent m e ≤ e ∧ -1074 < rootExponent m e := by
  have hlog : m.log2 < 53 := (Nat.log2_lt h.ne').mpr hm.short
  have := hm.least
  unfold rootExponent
  omega

theorem sqrtCore_eq (h : 0 < m) (hm : IsCanonical m e) : sqrtCore Format.binary64 m e =
    ((radicand m e).sqrt, rootExponent m e, rootAccuracy (radicand m e)) := by
  have hbounds := rootExponent_bounds h hm
  -- Half of the exponent would leave a mantissa of at most 54 bits, which is too short.
  have htarget : min (e.ediv 2) (Format.binary64.targetExponent ((totalExponent m e + 1).ediv 2)) =
      rootExponent m e := by
    show min (e / 2) (max ((((m.log2 : Int) + 1 + e + 1) / 2) - 53) (3 - 2 ^ 10 - 53)) = _
    unfold rootExponent at *
    omega
  unfold sqrtCore
  rw [htarget]
  rfl

/-- The integer that the root is taken of has 105 or 106 bits. -/
theorem log2_radicand (h : 0 < m) (hm : IsCanonical m e) :
    104 ≤ (radicand m e).log2 ∧ (radicand m e).log2 ≤ 105 := by
  have hbounds := rootExponent_bounds h hm
  unfold radicand
  rw [log2_shiftLeft h.ne']
  unfold rootExponent at *
  omega

/-- So its integer root has 53 bits. -/
theorem sqrt_radicand_bounds (h : 0 < m) (hm : IsCanonical m e) :
    2 ^ 52 ≤ (radicand m e).sqrt ∧ (radicand m e).sqrt < 2 ^ 53 := by
  obtain ⟨hlo, hhi⟩ := log2_radicand h hm
  have hne : radicand m e ≠ 0 := by
    intro hzero
    rw [hzero] at hlo
    exact absurd hlo (by decide)
  rw [Nat.le_sqrt, Nat.sqrt_lt]
  exact ⟨(Nat.le_log2 hne).mp hlo, (Nat.log2_lt hne).mp (Nat.lt_succ_of_le hhi)⟩

theorem radicand_eq (h : 0 < m) (hm : IsCanonical m e) :
    (radicand m e : ℚ) * (2 ^ rootExponent m e) ^ 2 = m * 2 ^ e := by
  obtain ⟨hle, -⟩ := rootExponent_bounds h hm
  obtain ⟨k, hk⟩ := Int.eq_ofNat_of_zero_le (sub_nonneg.mpr hle)
  have he : e = 2 * rootExponent m e + k := by omega
  unfold radicand
  rw [hk, Int.toNat_natCast, Nat.shiftLeft_eq]
  push_cast
  conv_rhs => rw [he, zpow_add₀ two_ne_zero, zpow_mul', zpow_natCast, zpow_ofNat]
  ring

/-- The root of a number has full length. -/
theorem sqrt_finite (h : 0 < m) (hm : IsCanonical m e) : ∃ m' e' h',
    UnpackedFloat.sqrt Format.binary64 (.finite .positive m e h) = .finite .positive m' e' h' ∧
      2 ^ 52 ≤ m' ∧ m' < 2 ^ 53 ∧ -1074 ≤ e' ∧ e' < 972 ∧
      (m' : ℚ) * 2 ^ e' = roundedRoot (radicand m e) * 2 ^ rootExponent m e := by
  obtain ⟨hfull, hshort⟩ := sqrt_radicand_bounds h hm
  have hleast := (rootExponent_bounds h hm).2
  have hmost : rootExponent m e < 971 := by
    have hlog : m.log2 < 53 := (Nat.log2_lt h.ne').mpr hm.short
    have := hm.most
    unfold rootExponent
    omega
  simp only [UnpackedFloat.sqrt, sqrtCore_eq h hm]
  exact round_of_full .positive hfull hshort hleast.le hmost (roundedMantissa_root _)

end

/-! ### Main statement -/

section

variable {x y : Float} {q : ℚ}

theorem hasValue_of_zero {s : Sign} (h : x.toModel.unpack = .zero s) : HasValue x 0 := by
  unfold HasValue Exact.ofFloat
  rw [h]
  cases s <;> simp [Exact.rational?]

theorem hasValue_of_positive {m : Nat} {e : Int} {h : 0 < m}
    (hx : x.toModel.unpack = .finite .positive m e h) : HasValue x (m * 2 ^ e) := by
  unfold HasValue Exact.ofFloat
  rw [hx]
  rfl

theorem unpack_sqrt_of_zero {s : Sign} (h : x.toModel.unpack = .zero s) :
    x.sqrt.toModel.unpack = .zero s := by
  show (Float.Model.pack (UnpackedFloat.sqrt Format.binary64 x.toModel.unpack)).unpack = _
  rw [h]
  cases s <;> rfl

/-- The root of a positive number is the product of a rounded integer root and a power of two. -/
theorem hasValue_sqrt_of_positive {m : Nat} {e : Int} {h : 0 < m}
    (hx : x.toModel.unpack = .finite .positive m e h) :
    HasValue x.sqrt (roundedRoot (radicand m e) * 2 ^ rootExponent m e) := by
  obtain ⟨m', e', h', hsqrt, hfull, hshort, hleast, hmost, hvalue⟩ :=
    sqrt_finite h (isCanonical_of_unpack hx)
  rw [← hvalue]
  apply hasValue_of_positive (h := h')
  show (Float.Model.pack (UnpackedFloat.sqrt Format.binary64 x.toModel.unpack)).unpack = _
  rw [hx, hsqrt, unpack_pack_of_full _ h' hfull hshort hleast hmost]

/-- Half of the last place of a root is small beside the root. -/
theorem abs_root_sub_le {m : Nat} {e : Int} (h : 0 < m) (hm : IsCanonical m e) :
    |((roundedRoot (radicand m e) * 2 ^ rootExponent m e : ℚ) : ℝ) - √((m * 2 ^ e : ℚ) : ℝ)| ≤
      √((m * 2 ^ e : ℚ) : ℝ) / 2 ^ 53 := by
  have hnear := abs_roundedRoot_sub_le (radicand m e)
  have hfull : (2 : ℝ) ^ 52 ≤ √(radicand m e) := by
    refine le_trans ?_ Real.nat_sqrt_le_real_sqrt
    exact_mod_cast (sqrt_radicand_bounds h hm).1
  have hpos : (0 : ℝ) < 2 ^ rootExponent m e := by positivity
  have hroot : √((m * 2 ^ e : ℚ) : ℝ) = √(radicand m e) * 2 ^ rootExponent m e := by
    rw [← radicand_eq h hm]
    push_cast
    rw [Real.sqrt_mul (by positivity), Real.sqrt_sq hpos.le]
  rw [hroot]
  push_cast
  rw [← sub_mul, abs_mul, abs_of_pos hpos, mul_div_right_comm]
  gcongr
  linarith

/-- **A number that is not negative has a root**, and it is as near to the exact one as a mantissa of
53 bits allows. -/
theorem exists_hasValue_sqrt (h : HasValue x q) (hq : 0 ≤ q) :
    ∃ r, HasValue x.sqrt r ∧ |(r : ℝ) - √(q : ℝ)| ≤ √(q : ℝ) / 2 ^ 53 := by
  have hreads := h.reads
  generalize hx : x.toModel.unpack = u at hreads
  cases hreads with
  | zero s => exact ⟨0, hasValue_of_zero (unpack_sqrt_of_zero hx), by simp⟩
  | positive pos canonical => exact ⟨_, hasValue_sqrt_of_positive hx, abs_root_sub_le pos canonical⟩
  | @negative m e pos canonical =>
    have hneg : -(m * 2 ^ e : ℚ) < 0 := neg_lt_zero.mpr (by positivity)
    exact absurd hq (not_le.mpr hneg)

/-- So only zero has zero for a root. -/
theorem eq_zero_iff_of_abs_sub_le {r : ℚ} (hq : 0 ≤ q) (h : |(r : ℝ) - √(q : ℝ)| ≤ √(q : ℝ) / 2 ^ 53) :
    r = 0 ↔ q = 0 := by
  constructor
  · rintro rfl
    have hroot : 0 ≤ √(q : ℝ) := Real.sqrt_nonneg _
    rw [Rat.cast_zero, zero_sub, abs_neg, abs_of_nonneg hroot] at h
    have hzero : √(q : ℝ) = 0 := by linarith
    rw [Real.sqrt_eq_zero (by exact_mod_cast hq)] at hzero
    exact_mod_cast hzero
  · rintro rfl
    rw [Rat.cast_zero, Real.sqrt_zero, sub_zero, zero_div, abs_nonpos_iff] at h
    exact_mod_cast h

end

end BenchCompare.Decimal
