import BenchCompare.Decimal.Exact
import Mathlib

/-! # Integers that are too great for a binary64 number

  An integer becomes infinite when it is taken as a binary64 number exactly if it
  is at least `2 ^ 1024 - 2 ^ 970`, which lies half-way between the greatest
  finite number and the next power of two.

  The conversion keeps the first 53 bits of the integer and rounds to nearest, to
  the even mantissa if there are two nearest.  So the question is when a mantissa
  gets one bit too many in rounding:

  * `droppedBits`: how many bits a mantissa loses.
  * `roundedBits`: the rounded mantissa, before a bit too many is taken off.

  Short integers go another way, through a multiplication by one, which needs
  bounds only.
-/

namespace BenchCompare.Decimal

open Float.Model Float.Model.UnpackedFloat

/-! ### Rounding a mantissa -/

/-- The number of bits that rounding drops from the mantissa of `m * 2 ^ e`. -/
def droppedBits (m : Nat) (e : Int) : Nat := (max ((m.log2 : Int) + e - 52) (-1074) - e).toNat

/-- The rounded mantissa of `m * 2 ^ e`. -/
def roundedBits (m : Nat) (e : Int) : Nat :=
  (ExtendedMantissa.mk m false false >>> droppedBits m e).roundedMantissa

theorem mantissa_ofMantissaAndAccuracy (m : Nat) (acc : Accuracy) :
    (ExtendedMantissa.ofMantissaAndAccuracy m acc).mantissa = m := by
  unfold ExtendedMantissa.ofMantissaAndAccuracy
  split <;> rfl

theorem mantissa_shiftRight (em : ExtendedMantissa) (k : Nat) :
    (em >>> k).mantissa = em.mantissa / 2 ^ k := by
  induction k with
  | zero => exact (Nat.div_one _).symm
  | succ k ih =>
    show (em >>> k).mantissa / 2 = _
    rw [ih, Nat.div_div_eq_div_mul, Nat.pow_succ]

theorem roundBit_shiftRight (em : ExtendedMantissa) (k : Nat) :
    (em >>> (k + 1)).roundBit = (em.mantissa / 2 ^ k % 2 != 0) := by
  show ((em >>> k).mantissa % 2 != 0) = _
  rw [mantissa_shiftRight]

theorem roundedMantissa_bounds (em : ExtendedMantissa) :
    em.mantissa ≤ em.roundedMantissa ∧ em.roundedMantissa ≤ em.mantissa + 1 := by
  obtain ⟨m, r, s⟩ := em
  cases r <;> cases s <;>
    simp only [ExtendedMantissa.roundedMantissa, ExtendedMantissa.accuracy,
      Accuracy.roundToNearestEven] <;> omega

/-- An odd mantissa is rounded up exactly if the first dropped bit is set: a tie goes up, too. -/
theorem roundedMantissa_of_odd {em : ExtendedMantissa} (h : em.mantissa % 2 = 1) :
    em.roundedMantissa = if em.roundBit then em.mantissa + 1 else em.mantissa := by
  obtain ⟨m, r, s⟩ := em
  have h' : m % 2 = 1 := h
  cases r <;> cases s <;>
    simp [ExtendedMantissa.roundedMantissa, ExtendedMantissa.accuracy,
      Accuracy.roundToNearestEven, h']

theorem roundedBits_bounds (m : Nat) (e : Int) :
    m / 2 ^ droppedBits m e ≤ roundedBits m e ∧
      roundedBits m e ≤ m / 2 ^ droppedBits m e + 1 := by
  have h := roundedMantissa_bounds (ExtendedMantissa.mk m false false >>> droppedBits m e)
  rwa [mantissa_shiftRight] at h

theorem div_droppedBits_lt (m : Nat) (e : Int) : m / 2 ^ droppedBits m e < 2 ^ 53 := by
  have hlog : m.log2 + 1 ≤ 53 + droppedBits m e := by
    unfold droppedBits
    omega
  rw [Nat.div_lt_iff_lt_mul (Nat.two_pow_pos _), ← Nat.pow_add]
  exact Nat.lt_of_lt_of_le Nat.lt_log2_self (Nat.pow_le_pow_right (by decide) hlog)

/-- A rounded mantissa has a bit too many exactly if all kept bits and the first dropped one are
set. -/
theorem roundedBits_eq_iff {m k : Nat} {e : Int} (hk : droppedBits m e = k + 1) :
    roundedBits m e = 2 ^ 53 ↔ 2 ^ 54 ≤ m / 2 ^ k + 1 := by
  have hlt := div_droppedBits_lt m e
  have hle := (roundedBits_bounds m e).2
  have hhalf : m / 2 ^ (k + 1) = m / 2 ^ k / 2 := by
    rw [Nat.div_div_eq_div_mul, Nat.pow_succ]
  rw [hk, hhalf] at hlt hle
  by_cases hfull : m / 2 ^ k / 2 + 1 = 2 ^ 53
  · have hodd : (ExtendedMantissa.mk m false false >>> (k + 1)).mantissa % 2 = 1 := by
      rw [mantissa_shiftRight, hhalf]
      omega
    rw [roundedBits, hk, roundedMantissa_of_odd hodd, roundBit_shiftRight, mantissa_shiftRight,
      hhalf]
    split
    · next hbit =>
      have hset : m / 2 ^ k % 2 ≠ 0 := by simpa using hbit
      omega
    · next hbit =>
      have hunset : m / 2 ^ k % 2 = 0 := by simpa using hbit
      omega
  · omega

/-! ### Rounding a number -/

theorem shiftToTargetExponent_eq (m : Nat) (e : Int) (acc : Accuracy) :
    shiftToTargetExponent Format.binary64 m e acc =
      (ExtendedMantissa.ofMantissaAndAccuracy m acc >>> droppedBits m e, e + droppedBits m e) := by
  have htarget : Format.binary64.targetExponent (totalExponent m e) =
      max ((m.log2 : Int) + e - 52) (-1074) := by
    show max ((m.log2 : Int) + 1 + e - 53) (3 - 2 ^ 10 - 53) = _
    omega
  unfold shiftToTargetExponent droppedBits
  rw [htarget]
  rfl

/-- A number is rounded by dropping bits twice, the second time without a loss. -/
theorem roundWithAccuracy_eq (s : Sign) {m r : Nat} (e : Int) {acc : Accuracy}
    (hr : (ExtendedMantissa.ofMantissaAndAccuracy m acc >>> droppedBits m e).roundedMantissa = r) :
    roundWithAccuracy Format.binary64 s m e acc =
      if h : r / 2 ^ droppedBits r (e + droppedBits m e) = 0 then
        .zero s
      else
        .finite s (r / 2 ^ droppedBits r (e + droppedBits m e))
          (e + droppedBits m e + droppedBits r (e + droppedBits m e)) (Nat.pos_of_ne_zero h) := by
  simp only [roundWithAccuracy, shiftToTargetExponent_eq, mantissa_shiftRight, hr]
  rfl

theorem droppedBits_of_lt {r : Nat} {e : Int} (hr : r < 2 ^ 53) (he : -1074 ≤ e) :
    droppedBits r e = 0 := by
  have hlog : r.log2 ≤ 52 := by
    by_cases h0 : r = 0
    · simp [h0]
    · have := (Nat.log2_lt h0).mpr hr
      omega
  unfold droppedBits
  omega

/-- Rounding leaves a mantissa that is not too long, or one that has to lose one bit more. -/
theorem roundWithAccuracy_cases (s : Sign) {m r : Nat} (e : Int) {acc : Accuracy}
    (hr : (ExtendedMantissa.ofMantissaAndAccuracy m acc >>> droppedBits m e).roundedMantissa = r) :
    (r = 0 ∧ roundWithAccuracy Format.binary64 s m e acc = .zero s) ∨
    (∃ h, r < 2 ^ 53 ∧ roundWithAccuracy Format.binary64 s m e acc =
      .finite s r (e + droppedBits m e) h) ∨
    (r = 2 ^ 53 ∧ roundWithAccuracy Format.binary64 s m e acc =
      .finite s (2 ^ 52) (e + droppedBits m e + 1) (by decide)) := by
  have he : -1074 ≤ e + droppedBits m e := by
    unfold droppedBits
    omega
  have hle : r ≤ 2 ^ 53 := by
    have hbound := (roundedMantissa_bounds
      (ExtendedMantissa.ofMantissaAndAccuracy m acc >>> droppedBits m e)).2
    have := div_droppedBits_lt m e
    rw [hr, mantissa_shiftRight, mantissa_ofMantissaAndAccuracy] at hbound
    omega
  rw [roundWithAccuracy_eq s e hr]
  generalize e + droppedBits m e = e₁ at he ⊢
  by_cases hlt : r < 2 ^ 53
  · simp only [droppedBits_of_lt hlt he, Nat.pow_zero, Nat.div_one]
    by_cases h0 : r = 0
    · exact .inl ⟨h0, dif_pos h0⟩
    · refine .inr (.inl ⟨Nat.pos_of_ne_zero h0, hlt, ?_⟩)
      rw [dif_neg h0]
      simp
  · have hmax : r = 2 ^ 53 := by omega
    have hdrop : droppedBits (2 ^ 53) e₁ = 1 := by
      unfold droppedBits
      rw [Nat.log2_two_pow]
      omega
    subst hmax
    refine .inr (.inr ⟨rfl, ?_⟩)
    simp only [hdrop]
    rfl

theorem round_cases (s : Sign) (m : Nat) (e : Int) :
    (roundedBits m e = 0 ∧ roundWithAccuracy Format.binary64 s m e .exact = .zero s) ∨
    (∃ h, roundedBits m e < 2 ^ 53 ∧ roundWithAccuracy Format.binary64 s m e .exact =
      .finite s (roundedBits m e) (e + droppedBits m e) h) ∨
    (roundedBits m e = 2 ^ 53 ∧ roundWithAccuracy Format.binary64 s m e .exact =
      .finite s (2 ^ 52) (e + droppedBits m e + 1) (by decide)) :=
  roundWithAccuracy_cases s e rfl

/-! ### Packing a number -/

theorem pack_finite_cases (s : Sign) (m : Nat) (e : Int) (h : 0 < m) :
    (972 ≤ e ∧ UnpackedFloat.pack Format.binary64 (.finite s m e h) =
      packedInfinity Format.binary64 s) ∨
    (e < 972 ∧ ∃ (e' : BitVec 11) (m' : BitVec 52), e'.toNat < 2047 ∧
      (e'.toNat : Int) ≤ max (e + 1075) 0 ∧
      UnpackedFloat.pack Format.binary64 (.finite s m e h) =
        packComponents Format.binary64 s e' m') := by
  have hbias : ((Format.exponentBias Format.binary64 : Nat) : Int) = 1023 := rfl
  simp only [UnpackedFloat.pack, hbias]
  split
  · exact .inl ⟨by omega, rfl⟩
  · refine .inr ⟨by omega, ?_⟩
    split
    · refine ⟨_, _, ?_, ?_, rfl⟩
      · rw [BitVec.toNat_ofNat, Nat.mod_eq_of_lt (by omega)]
        omega
      · rw [BitVec.toNat_ofNat, Nat.mod_eq_of_lt (by omega)]
        omega
    · refine ⟨_, _, ?_, ?_, rfl⟩
      · rw [BitVec.toNat_ofNat]
        omega
      · rw [BitVec.toNat_ofNat]
        omega

theorem isInf_unpack_packComponents (s : Sign) (e : BitVec 11) (m : BitVec 52) :
    (UnpackedFloat.unpack Format.binary64 (packComponents Format.binary64 s e m)).isInf = true ↔
      e = -1#11 ∧ m = 0#52 := by
  simp only [UnpackedFloat.unpack, unpackExponent_packComponents, unpackMantissa_packComponents]
  split
  · split <;> simp_all [UnpackedFloat.isInf]
  · split
    · split <;> simp_all [UnpackedFloat.isInf]
    · simp_all [UnpackedFloat.isInf]

theorem isInf_pack_finite (s : Sign) (m : Nat) (e : Int) (h : 0 < m) :
    (Float.Model.pack (.finite s m e h)).unpack.isInf = true ↔ 972 ≤ e := by
  show (UnpackedFloat.unpack Format.binary64
    (UnpackedFloat.pack Format.binary64 (.finite s m e h))).isInf = true ↔ _
  rcases pack_finite_cases s m e h with ⟨hbig, hpack⟩ | ⟨hsmall, e', m', he', -, hpack⟩
  · rw [hpack, packedInfinity, isInf_unpack_packComponents]
    exact iff_of_true ⟨rfl, rfl⟩ hbig
  · rw [hpack, isInf_unpack_packComponents]
    refine iff_of_false ?_ (by omega)
    intro h
    obtain ⟨rfl, -⟩ := h
    exact absurd he' (by decide)

/-- What is packed has a short mantissa, and no greater an exponent. -/
theorem unpack_pack_le {s s' : Sign} {m m' : Nat} {e e' : Int} {h : 0 < m} {h' : 0 < m'}
    (heq : (Float.Model.pack (.finite s m e h)).unpack = .finite s' m' e' h') :
    m' < 2 ^ 53 ∧ e' ≤ max e (-1074) := by
  have hbias : ((Format.exponentBias Format.binary64 : Nat) : Int) = 1023 := rfl
  replace heq : UnpackedFloat.unpack Format.binary64
    (UnpackedFloat.pack Format.binary64 (.finite s m e h)) = .finite s' m' e' h' := heq
  rcases pack_finite_cases s m e h with ⟨-, hpack⟩ | ⟨-, be, bm, -, hle, hpack⟩
  · rw [hpack] at heq
    simp [packedInfinity, UnpackedFloat.unpack] at heq
  · rw [hpack] at heq
    have hm := bm.isLt
    have hm' := (1#1 ++ bm).isLt
    simp only [UnpackedFloat.unpack, unpackExponent_packComponents, unpackMantissa_packComponents,
      hbias] at heq
    split at heq
    · split at heq <;> cases heq
    · split at heq
      · next hzero =>
        split at heq
        · cases heq
        · cases heq
          rw [hzero]
          refine ⟨by omega, ?_⟩
          show ((0 : Nat) : Int) - (1023 + (52 : Nat)) + 1 ≤ _
          omega
      · cases heq
        exact ⟨hm', by omega⟩

theorem isInf_round_of_lt {s : Sign} {m : Nat} {e : Int} (h : m.log2 + e < 1023) (he : e < 971) :
    (Float.Model.pack (roundWithAccuracy Format.binary64 s m e .exact)).unpack.isInf = false := by
  have hdrop : e + droppedBits m e + 1 < 972 := by
    unfold droppedBits
    omega
  rcases round_cases s m e with ⟨-, hround⟩ | ⟨_, -, hround⟩ | ⟨-, hround⟩
  · rw [hround]
    cases s <;> rfl
  · rw [hround, ← Bool.not_eq_true, isInf_pack_finite]
    omega
  · rw [hround, ← Bool.not_eq_true, isInf_pack_finite]
    omega

theorem unpack_pack_round_le {s s' : Sign} {m m' : Nat} {e e' : Int} {h' : 0 < m'}
    (heq : (Float.Model.pack (roundWithAccuracy Format.binary64 s m e .exact)).unpack =
      .finite s' m' e' h') : m' < 2 ^ 53 ∧ e' ≤ max (e + droppedBits m e + 1) (-1074) := by
  rcases round_cases s m e with ⟨-, hround⟩ | ⟨_, -, hround⟩ | ⟨-, hround⟩
  · rw [hround] at heq
    cases s <;> cases heq
  · rw [hround] at heq
    obtain ⟨hm, he⟩ := unpack_pack_le heq
    exact ⟨hm, by omega⟩
  · rw [hround] at heq
    exact unpack_pack_le heq

/-! ### Short integers -/

theorem log2_shiftLeft {n : Nat} (h : n ≠ 0) (k : Nat) : (n <<< k).log2 = n.log2 + k := by
  obtain ⟨hlo, hhi⟩ := (Nat.log2_eq_iff h).mp rfl
  have hne : n <<< k ≠ 0 := by
    rw [Nat.shiftLeft_eq]
    exact Nat.mul_ne_zero h (Nat.two_pow_pos k).ne'
  rw [Nat.log2_eq_iff hne, Nat.shiftLeft_eq, Nat.add_right_comm, Nat.pow_add, Nat.pow_add _ _ k]
  exact ⟨Nat.mul_le_mul_right _ hlo, Nat.mul_lt_mul_of_pos_right hhi (Nat.two_pow_pos k)⟩

theorem unpack_one : (Float.ofBits 0x3FF0000000000000).toModel.unpack =
    .finite .positive (2 ^ 52) (-52) (by decide) := rfl

theorem isInf_mul_one {x : Float} (hinf : x.isInf = false)
    (hsmall : ∀ s m e h, x.toModel.unpack = .finite s m e h → m < 2 ^ 53 ∧ e ≤ 1) :
    (x * Float.ofBits 0x3FF0000000000000).isInf = false := by
  show (Float.Model.pack (UnpackedFloat.mul Format.binary64 x.toModel.unpack
    (Float.ofBits 0x3FF0000000000000).toModel.unpack)).unpack.isInf = false
  rw [unpack_one]
  replace hinf : x.toModel.unpack.isInf = false := hinf
  cases hx : x.toModel.unpack with
  | infinity s =>
    rw [hx] at hinf
    cases hinf
  | notANumber => rfl
  | zero s => cases s <;> rfl
  | finite s m e h =>
    obtain ⟨hm, he⟩ := hsmall s m e h hx
    have hlog : m.log2 < 53 := (Nat.log2_lt (by omega)).mpr hm
    apply isInf_round_of_lt
    · rw [← Nat.shiftLeft_eq, log2_shiftLeft (by omega)]
      omega
    · omega

/-- A short integer is brought to full length first. -/
theorem toModel_toFloat {n : Nat} (h0 : n ≠ 0) (h : n < 2 ^ 53) :
    ∃ k : Nat, n.log2 + k = 52 ∧ n.toUInt64.toFloat.toModel =
      Float.Model.pack (roundWithAccuracy Format.binary64 .positive (n <<< k) (-k) .exact) := by
  have hlog : n.log2 < 53 := (Nat.log2_lt h0).mpr h
  have hn : n.toUInt64.toNat = n := by
    show n % 2 ^ 64 = n
    omega
  have hpos : compare (n : Int) 0 = .gt := by
    rw [compare_gt_iff_gt]
    omega
  have hmodel : n.toUInt64.toFloat.toModel =
      Float.Model.pack (UnpackedFloat.normalize Format.binary64 n.toUInt64.toNat 0 .positive) := rfl
  have htarget : Format.binary64.targetExponent (totalExponent n 0) = (n.log2 : Int) - 52 := by
    show max ((n.log2 : Int) + 1 + 0 - 53) (3 - 2 ^ 10 - 53) = _
    omega
  rw [hn] at hmodel
  simp only [UnpackedFloat.normalize, hpos, UnpackedFloat.round, decreaseExponent, htarget,
    Int.toNat_natCast, Int.zero_sub] at hmodel
  exact ⟨_, by omega, hmodel⟩

theorem isInf_ofNat_of_lt {n : Nat} (h : n < 2 ^ 53) : (Float.ofNat n).isInf = false := by
  have hfast : n < 2 ^ 53 ∧ 0 ≤ 22 := ⟨h, by decide⟩
  have hmul : Float.ofNat n = n.toUInt64.toFloat * Float.ofBits 0x3FF0000000000000 := by
    show Float.ofScientific n false 0 = _
    rw [Float.ofScientific, dif_pos hfast]
    rfl
  rw [hmul]
  by_cases h0 : n = 0
  · subst h0
    rfl
  · obtain ⟨k, hk, hmodel⟩ := toModel_toFloat h0 h
    have hlog : (n <<< k).log2 = 52 := by rw [log2_shiftLeft h0, hk]
    apply isInf_mul_one
    · show n.toUInt64.toFloat.toModel.unpack.isInf = false
      rw [hmodel]
      apply isInf_round_of_lt <;> omega
    · intro s m e hm heq
      rw [hmodel] at heq
      obtain ⟨hshort, he⟩ := unpack_pack_round_le heq
      have hdrop : droppedBits (n <<< k) (-k) = 0 := by
        unfold droppedBits
        omega
      exact ⟨hshort, by omega⟩

/-! ### Long integers -/

theorem toModel_ofNat_of_le {n : Nat} (h : 2 ^ 53 ≤ n) :
    (Float.ofNat n).toModel = Float.Model.pack
      (roundWithAccuracy Format.binary64 .positive (n <<< 53) (-53) .exact) := by
  have hn : n ≠ 0 := by omega
  have hslow : ¬ (n < 2 ^ 53 ∧ 0 ≤ 22) := by omega
  have hlarge : ¬ ((0 : Int) > 2 ^ Format.binary64.exponentBits) := by decide
  have hsmall : ¬ ((0 : Int) < -((2 ^ Format.binary64.exponentBits : Int) + n.log2)) := by
    have : (0 : Int) ≤ 2 ^ Format.binary64.exponentBits := by decide
    omega
  have hbits : Format.binary64.mantissaBits = 53 := rfl
  have hone : 10 ^ (0 : Int).toNat = 1 := rfl
  show (Float.ofScientific n false 0).toModel = _
  rw [Float.ofScientific, dif_neg hslow]
  show Float.Model.pack (UnpackedFloat.ofScientific Format.binary64 n 0) = _
  rw [UnpackedFloat.ofScientific, dif_neg hn, if_neg hlarge, if_neg hsmall, if_pos (le_refl 0)]
  simp only [hbits, hone, UnpackedFloat.mul, Nat.mul_one, Int.add_zero]
  rfl

theorem droppedBits_shiftLeft {n : Nat} (h : 2 ^ 53 ≤ n) :
    droppedBits (n <<< 53) (-53) = n.log2 + 1 := by
  have hn : n ≠ 0 := by omega
  have hlog : 53 ≤ n.log2 := (Nat.le_log2 hn).mpr h
  rw [droppedBits, log2_shiftLeft hn]
  omega

/-- The number of an integer is infinite if the integer is too long, or if it is as long as the
greatest number and gets longer in rounding. -/
theorem isInf_ofNat_iff_log2 {n : Nat} (h : 2 ^ 53 ≤ n) :
    (Float.ofNat n).isInf = true ↔
      1024 ≤ n.log2 ∨ n.log2 = 1023 ∧ roundedBits (n <<< 53) (-53) = 2 ^ 53 := by
  have hn : n ≠ 0 := by omega
  have hk := droppedBits_shiftLeft h
  have hpos : 0 < roundedBits (n <<< 53) (-53) := by
    refine Nat.lt_of_lt_of_le (Nat.div_pos ?_ (Nat.two_pow_pos _)) (roundedBits_bounds _ _).1
    rw [hk, Nat.shiftLeft_eq, Nat.pow_succ]
    exact Nat.mul_le_mul (Nat.log2_self_le hn) (by decide)
  show (Float.ofNat n).toModel.unpack.isInf = true ↔ _
  rw [toModel_ofNat_of_le h]
  rcases round_cases .positive (n <<< 53) (-53) with ⟨h0, -⟩ | ⟨_, hlt, hround⟩ | ⟨hmax, hround⟩
  · omega
  · rw [hround, isInf_pack_finite, hk]
    omega
  · rw [hround, isInf_pack_finite, hk]
    omega

/-- An integer gets longer in rounding exactly if its first 54 bits are set. -/
theorem roundedBits_shiftLeft_eq_iff {n k : Nat} (h : n.log2 = k + 53) :
    roundedBits (n <<< 53) (-53) = 2 ^ 53 ↔ (2 ^ 54 - 1) * 2 ^ k ≤ n := by
  have hn : n ≠ 0 := by
    intro h0
    subst h0
    simp at h
  have hlong : 2 ^ 53 ≤ n := (Nat.le_log2 hn).mp (by omega)
  have hdiv : n <<< 53 / 2 ^ (k + 53) = n / 2 ^ k := by
    rw [Nat.shiftLeft_eq, Nat.pow_add, Nat.mul_div_mul_right _ _ (Nat.two_pow_pos 53)]
  rw [roundedBits_eq_iff ((droppedBits_shiftLeft hlong).trans (congrArg (· + 1) h)), hdiv,
    ← Nat.le_div_iff_mul_le (Nat.two_pow_pos k)]
  omega

/-! ### Main statement -/

/-- The least natural number that is infinite as a binary64 number. -/
def overflow : Nat := (2 ^ 54 - 1) * 2 ^ 970

example : overflow = 2 ^ 1024 - 2 ^ 970 := by decide +kernel

theorem isInf_ofNat_iff (n : Nat) : (Float.ofNat n).isInf = true ↔ overflow ≤ n := by
  unfold overflow
  generalize hk : 970 = k
  have hpos : 0 < 2 ^ k := Nat.two_pow_pos k
  by_cases hlt : n < 2 ^ 53
  · rw [isInf_ofNat_of_lt hlt]
    simp only [Bool.false_eq_true, false_iff]
    omega
  · have hle : 2 ^ 53 ≤ n := by omega
    have hlog : ∀ l, l + k ≤ n.log2 ↔ 2 ^ l * 2 ^ k ≤ n := by
      intro l
      rw [Nat.le_log2 (by omega), Nat.pow_add]
    have h₁ := hlog 53
    have h₂ := hlog 54
    rw [isInf_ofNat_iff_log2 hle]
    by_cases hlong : n.log2 = k + 53
    · rw [roundedBits_shiftLeft_eq_iff hlong]
      omega
    · omega

end BenchCompare.Decimal
