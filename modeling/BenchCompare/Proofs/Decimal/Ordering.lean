import BenchCompare.Proofs.Decimal.Rational
import Mathlib

/-! # The order of binary64 numbers

  Two finite numbers are compared by their signs, then by their exponents, and by
  their mantissas only then.  That is the order of their exact values, because the
  mantissa has full length unless the exponent is the least one.

  * `HasValue x q`: the exact value of a finite number.
  * `place x`: where a number stands among the rational numbers and the two
    infinities.

  Main statements: `le_iff_place_le` and `lt_iff_place_lt`, that numbers are
  ordered by their places, and `eq_or_zeros_of_le_of_le`, that only the two zeros
  share one.
-/

namespace BenchCompare.Decimal

open Float.Model Float.Model.UnpackedFloat

/-- The exact value of a finite number. -/
def HasValue (x : Float) (q : ℚ) : Prop := (Exact.ofFloat x).rational? = some q

instance (x : Float) (q : ℚ) : Decidable (HasValue x q) := inferInstanceAs (Decidable (_ = some q))

/-- The mantissa and the exponent that are read from the bits of a number: the mantissa has full
length, unless the exponent is the least one. -/
structure IsCanonical (m : Nat) (e : Int) : Prop where
  /-- The mantissa is not too long. -/
  short : m < 2 ^ 53
  /-- The exponent is not below the least one. -/
  least : -1074 ≤ e
  /-- The exponent is not above the greatest one. -/
  most : e ≤ 971
  /-- Only the least exponent goes with a shorter mantissa. -/
  full : 2 ^ 52 ≤ m ∨ e = -1074

/-- The value of what was read from the bits of a number, by its sign. -/
inductive Reads : UnpackedFloat → ℚ → Prop
  | zero (s : Sign) : Reads (.zero s) 0
  | positive {m : Nat} {e : Int} (pos : 0 < m) (canonical : IsCanonical m e) :
      Reads (.finite .positive m e pos) (m * 2 ^ e)
  | negative {m : Nat} {e : Int} (pos : 0 < m) (canonical : IsCanonical m e) :
      Reads (.finite .negative m e pos) (-(m * 2 ^ e))

/-! ### Reading numbers from bits -/

section

variable {x y : Float} {p q : ℚ} {m m' : Nat} {e e' : Int}

/-- The bits of a number are those of its sign, its exponent and its mantissa. -/
theorem toNat_eq_unpacked (b : BitVec Format.binary64.numBits) :
    b.toNat = (unpackSign b).toNat * 2 ^ 63 + (unpackExponent b).toNat * 2 ^ 52 +
      (unpackMantissa b).toNat := by
  have hlt : b.toNat < 2 ^ 64 := b.isLt
  have hsign : (unpackSign b).toNat = b.toNat / 2 ^ 63 % 2 := by
    show (BitVec.extractLsb 63 63 b).toNat = _
    rw [BitVec.extractLsb_toNat, Nat.shiftRight_eq_div_pow]
  have hexponent : (unpackExponent b).toNat = b.toNat / 2 ^ 52 % 2 ^ 11 := by
    show (BitVec.extractLsb 62 52 b).toNat = _
    rw [BitVec.extractLsb_toNat, Nat.shiftRight_eq_div_pow]
  have hmantissa : (unpackMantissa b).toNat = b.toNat % 2 ^ 52 := by
    show (BitVec.extractLsb 51 0 b).toNat = _
    rw [BitVec.extractLsb_toNat, Nat.shiftRight_zero]
  omega

/-- A mantissa of full length starts with a bit that is not written. -/
theorem toNat_leading_append (v : BitVec 52) : (1#1 ++ v).toNat = 2 ^ 52 + v.toNat := by
  rw [BitVec.toNat_append, Nat.or_comm]
  show v.toNat ||| (1 <<< 52) = _
  rw [Nat.shiftLeft_eq, Nat.one_mul, Nat.or_two_pow_eq_add_of_lt v.isLt, Nat.add_comm]

theorem isCanonical_of_unpack {s : Sign} {h : 0 < m} (hx : x.toModel.unpack = .finite s m e h) :
    IsCanonical m e := by
  have hbias : ((Format.exponentBias Format.binary64 : Nat) : Int) = 1023 := rfl
  unfold Float.Model.unpack UnpackedFloat.unpack at hx
  generalize x.toModel.toBits.toBitVec = bits at hx
  have hshort : (@unpackMantissa Format.binary64 bits).toNat < 2 ^ 52 :=
    (@unpackMantissa Format.binary64 bits).isLt
  have hfull := toNat_leading_append (@unpackMantissa Format.binary64 bits)
  simp only [hbias] at hx
  split_ifs at hx with hinfinite hmantissa hzero hnone
  · cases hx
    rw [hzero]
    exact ⟨Nat.lt_trans hshort (by decide), by decide, by decide, .inr (by decide)⟩
  · cases hx
    have hleast : (@unpackExponent Format.binary64 bits).toNat ≠ 0 :=
      fun hnat => hzero (BitVec.eq_of_toNat_eq hnat)
    have hmost : (@unpackExponent Format.binary64 bits).toNat ≠ 2047 :=
      fun hnat => hinfinite (BitVec.eq_of_toNat_eq hnat)
    have hexponent : (@unpackExponent Format.binary64 bits).toNat < 2 ^ 11 :=
      (@unpackExponent Format.binary64 bits).isLt
    -- an exponent that is written with all bits set is none, and neither is zero
    refine ⟨by omega, ?_, ?_, .inl (by omega)⟩
    · show -1074 ≤ _ - (1023 + ((52 : Nat) : Int))
      omega
    · show _ - (1023 + ((52 : Nat) : Int)) ≤ 971
      omega

theorem HasValue.reads (h : HasValue x q) : Reads x.toModel.unpack q := by
  unfold HasValue Exact.ofFloat at h
  cases hx : x.toModel.unpack with
  | notANumber =>
    rw [hx] at h
    cases h
  | infinity s =>
    rw [hx] at h
    cases h
  | zero s =>
    rw [hx] at h
    have hq : 0 = q := by
      cases s <;> simpa [Exact.rational?] using h
    rw [← hq]
    exact .zero s
  | finite s m e hm =>
    rw [hx] at h
    cases s with
    | positive =>
      cases h
      exact .positive hm (isCanonical_of_unpack hx)
    | negative =>
      cases h
      exact .negative hm (isCanonical_of_unpack hx)

/-! ### Comparing finite numbers -/

theorem magnitude_lt_of_exponent_lt (h : IsCanonical m e) (h' : IsCanonical m' e') (hlt : e < e') :
    (m : ℚ) * 2 ^ e < m' * 2 ^ e' := by
  have hfull : 2 ^ 52 ≤ m' := by
    have := h'.full
    have := h.least
    omega
  have hpos : (0 : ℚ) < 2 ^ e := by positivity
  calc (m : ℚ) * 2 ^ e < 2 ^ 53 * 2 ^ e := by
        gcongr
        exact_mod_cast h.short
    _ = 2 ^ 52 * 2 ^ (e + 1) := by
        rw [zpow_add_one₀ (by norm_num)]
        ring
    _ ≤ m' * 2 ^ e' := by
        gcongr
        · exact_mod_cast hfull
        · norm_num
        · omega

/-- The exponents are compared first, and the mantissas only then. -/
theorem compare_magnitudes (h : IsCanonical m e) (h' : IsCanonical m' e') :
    (compare e e').then (compare m m') = compare ((m : ℚ) * 2 ^ e) (m' * 2 ^ e') := by
  have hpos : (0 : ℚ) < 2 ^ e := by positivity
  rcases lt_trichotomy e e' with hlt | rfl | hgt
  · rw [compare_lt_iff_lt.mpr hlt, compare_lt_iff_lt.mpr (magnitude_lt_of_exponent_lt h h' hlt)]
    rfl
  · rw [compare_eq_iff_eq.mpr rfl]
    show compare m m' = _
    rcases lt_trichotomy m m' with hlt | rfl | hgt
    · rw [compare_lt_iff_lt.mpr hlt, eq_comm, compare_lt_iff_lt]
      gcongr
    · rw [compare_eq_iff_eq.mpr rfl, compare_eq_iff_eq.mpr rfl]
    · rw [compare_gt_iff_gt.mpr hgt, eq_comm, compare_gt_iff_gt]
      gcongr
  · rw [compare_gt_iff_gt.mpr hgt, compare_gt_iff_gt.mpr (magnitude_lt_of_exponent_lt h' h hgt)]
    rfl

theorem compare_neg (p q : ℚ) : compare (-p) (-q) = (compare p q).swap := by
  rw [← cmp_eq_compare, ← cmp_eq_compare, cmp_swap]
  exact StrictAnti.cmp_map_eq (fun _ _ => neg_lt_neg) p q

theorem compare_of_reads {a b : UnpackedFloat} (ha : Reads a p) (hb : Reads b q) :
    a.compare b = some (compare p q) := by
  have hlt : ∀ {p q : ℚ}, p < q → some Ordering.lt = some (compare p q) :=
    fun h => congrArg some (compare_lt_iff_lt.mpr h).symm
  have hgt : ∀ {p q : ℚ}, q < p → some Ordering.gt = some (compare p q) :=
    fun h => congrArg some (compare_gt_iff_gt.mpr h).symm
  cases ha with
  | zero s =>
    cases hb with
    | zero s' => exact congrArg some (compare_eq_iff_eq.mpr rfl).symm
    | positive pos => exact hlt (by positivity)
    | negative pos => exact hgt (neg_lt_zero.mpr (by positivity))
  | @positive m e pos canonical =>
    have hm : (0 : ℚ) < m * 2 ^ e := by positivity
    cases hb with
    | zero s' => exact hgt hm
    | positive pos' canonical' => exact congrArg some (compare_magnitudes canonical canonical')
    | negative pos' => exact hgt ((neg_lt_zero.mpr (by positivity)).trans hm)
  | @negative m e pos canonical =>
    have hm : -(m * 2 ^ e : ℚ) < 0 := neg_lt_zero.mpr (by positivity)
    cases hb with
    | zero s' => exact hlt hm
    | positive pos' => exact hlt (hm.trans (by positivity))
    | negative pos' canonical' =>
      rw [compare_neg, ← compare_magnitudes canonical canonical']
      rfl

/-! ### Infinities -/

/-- Where a value stands among the rational numbers and the two infinities.  What is no number has no
place of its own. -/
def Exact.place : Exact → WithBot (WithTop ℚ)
  | .nan => ⊥
  | .infinite negative => if negative then ⊥ else ⊤
  | .finite negative m e => ((if negative then -(m * 2 ^ e) else m * 2 ^ e : ℚ) : WithTop ℚ)

/-- Where a number stands. -/
def place (x : Float) : WithBot (WithTop ℚ) := (Exact.ofFloat x).place

theorem HasValue.place_eq (h : HasValue x q) : place x = ((q : WithTop ℚ) : WithBot (WithTop ℚ)) := by
  unfold HasValue at h
  unfold place
  cases hx : Exact.ofFloat x with
  | nan =>
    rw [hx] at h
    cases h
  | infinite negative =>
    rw [hx] at h
    cases h
  | finite negative m e =>
    rw [hx] at h
    cases h
    rfl

theorem compare_coe (p q : ℚ) :
    compare ((p : WithTop ℚ) : WithBot (WithTop ℚ)) ((q : WithTop ℚ) : WithBot (WithTop ℚ)) =
      compare p q := by
  rw [← cmp_eq_compare, ← cmp_eq_compare]
  exact (WithBot.coe_strictMono.comp WithTop.coe_strictMono).cmp_map_eq p q

/-- What is a number is finite or one of the infinities. -/
theorem number_cases (h : x.isNaN = false) :
    (∃ q, HasValue x q) ∨ ∃ s, x.toModel.unpack = .infinity s := by
  replace h : x.toModel.unpack.isNaN = false := h
  unfold HasValue Exact.ofFloat
  cases hx : x.toModel.unpack with
  | notANumber =>
    rw [hx] at h
    cases h
  | infinity s => exact .inr ⟨s, rfl⟩
  | zero s => exact .inl ⟨_, rfl⟩
  | finite s m e hm => exact .inl ⟨_, rfl⟩

theorem place_of_infinity {s : Sign} (h : x.toModel.unpack = .infinity s) :
    place x = if isNegative s then ⊥ else ⊤ := by
  unfold place Exact.ofFloat
  rw [h]
  rfl

theorem compare_infinity_left {b : UnpackedFloat} (s : Sign) (hb : Reads b q) :
    (UnpackedFloat.infinity s).compare b =
      some (compare (if isNegative s then ⊥ else ⊤) ((q : WithTop ℚ) : WithBot (WithTop ℚ))) := by
  cases s with
  | negative =>
    rw [compare_lt_iff_lt.mpr (WithBot.bot_lt_coe _)]
    cases hb <;> rfl
  | positive =>
    rw [compare_gt_iff_gt.mpr (WithBot.coe_lt_coe.mpr (WithTop.coe_lt_top _))]
    cases hb <;> rfl

theorem compare_infinity_right {a : UnpackedFloat} (s : Sign) (ha : Reads a p) :
    a.compare (.infinity s) =
      some (compare ((p : WithTop ℚ) : WithBot (WithTop ℚ)) (if isNegative s then ⊥ else ⊤)) := by
  cases s with
  | negative =>
    rw [compare_gt_iff_gt.mpr (WithBot.bot_lt_coe _)]
    cases ha <;> rfl
  | positive =>
    rw [compare_lt_iff_lt.mpr (WithBot.coe_lt_coe.mpr (WithTop.coe_lt_top _))]
    cases ha <;> rfl

/-! ### The order of all numbers -/

theorem compare_unpack (hx : x.isNaN = false) (hy : y.isNaN = false) :
    x.toModel.unpack.compare y.toModel.unpack = some (compare (place x) (place y)) := by
  rcases number_cases hx with ⟨p, hp⟩ | ⟨s, hs⟩
  · rcases number_cases hy with ⟨q, hq⟩ | ⟨s', hs'⟩
    · rw [hp.place_eq, hq.place_eq, compare_coe]
      exact compare_of_reads hp.reads hq.reads
    · rw [hp.place_eq, hs', place_of_infinity hs']
      exact compare_infinity_right s' hp.reads
  · rcases number_cases hy with ⟨q, hq⟩ | ⟨s', hs'⟩
    · rw [hs, place_of_infinity hs, hq.place_eq]
      exact compare_infinity_left s hq.reads
    · rw [hs, hs', place_of_infinity hs, place_of_infinity hs']
      cases s <;> cases s' <;> rfl

theorem lt_iff_place_lt (hx : x.isNaN = false) (hy : y.isNaN = false) :
    x < y ↔ place x < place y := by
  have hlt : x < y ↔ (x.toModel.unpack.compare y.toModel.unpack == some .lt) = true :=
    decide_eq_true_iff
  rw [hlt, compare_unpack hx hy, beq_iff_eq, Option.some.injEq, compare_lt_iff_lt]

theorem le_iff_place_le (hx : x.isNaN = false) (hy : y.isNaN = false) :
    x ≤ y ↔ place x ≤ place y := by
  have hle : x ≤ y ↔ ((x.toModel.unpack.compare y.toModel.unpack).any (·.isLE)) = true :=
    decide_eq_true_iff
  rw [hle, compare_unpack hx hy, ← compare_le_iff_le, Option.any_some]
  cases compare (place x) (place y) <;> decide

theorem beq_iff_place_eq (hx : x.isNaN = false) (hy : y.isNaN = false) :
    (x == y) = true ↔ place x = place y := by
  have heq : (x == y) = (x.toModel.unpack.compare y.toModel.unpack == some .eq) := rfl
  rw [heq, compare_unpack hx hy, beq_iff_eq, Option.some.injEq, compare_eq_iff_eq]

theorem compare_eq_none (h : x.isNaN = true ∨ y.isNaN = true) :
    x.toModel.unpack.compare y.toModel.unpack = none := by
  rcases h with h | h
  · have hx := isNaN_iff.mp (show x.toModel.unpack.isNaN = true from h)
    rw [hx]
    rfl
  · have hy := isNaN_iff.mp (show y.toModel.unpack.isNaN = true from h)
    rw [hy]
    cases x.toModel.unpack <;> rfl

theorem isNaN_of_le (h : x ≤ y) : x.isNaN = false ∧ y.isNaN = false := by
  by_contra hnan
  rw [not_and_or, Bool.not_eq_false, Bool.not_eq_false] at hnan
  have hle : ((x.toModel.unpack.compare y.toModel.unpack).any (·.isLE)) = true := of_decide_eq_true h
  rw [compare_eq_none hnan] at hle
  cases hle

theorem isNaN_of_lt (h : x < y) : x.isNaN = false ∧ y.isNaN = false := by
  by_contra hnan
  rw [not_and_or, Bool.not_eq_false, Bool.not_eq_false] at hnan
  have hlt : (x.toModel.unpack.compare y.toModel.unpack == some .lt) = true := of_decide_eq_true h
  rw [compare_eq_none hnan] at hlt
  cases hlt

/-! ### The order of exact values -/

theorem Reads.finite {u : UnpackedFloat} (h : Reads u q) : u.isNaN = false ∧ u.isFinite = true := by
  cases h <;> exact ⟨rfl, rfl⟩

theorem HasValue.isNaN (h : HasValue x q) : x.isNaN = false := h.reads.finite.1

theorem exists_hasValue_iff : (∃ q, HasValue x q) ↔ x.isFinite = true := by
  constructor
  · rintro ⟨q, h⟩
    exact h.reads.finite.2
  · intro h
    replace h : x.toModel.unpack.isFinite = true := h
    unfold HasValue Exact.ofFloat
    cases hx : x.toModel.unpack with
    | notANumber =>
      rw [hx] at h
      cases h
    | infinity s =>
      rw [hx] at h
      cases h
    | zero s => exact ⟨_, rfl⟩
    | finite s m e hm => exact ⟨_, rfl⟩

theorem HasValue.unique (h : HasValue x p) (h' : HasValue x q) : p = q :=
  Option.some.inj (h.symm.trans h')

theorem HasValue.le_iff (h : HasValue x p) (h' : HasValue y q) : x ≤ y ↔ p ≤ q := by
  rw [le_iff_place_le h.isNaN h'.isNaN, h.place_eq, h'.place_eq, WithBot.coe_le_coe,
    WithTop.coe_le_coe]

theorem HasValue.beq_iff (h : HasValue x p) (h' : HasValue y q) : (x == y) = true ↔ p = q := by
  rw [beq_iff_place_eq h.isNaN h'.isNaN, h.place_eq, h'.place_eq, WithBot.coe_inj, WithTop.coe_inj]

/-! ### The order by itself -/

theorem le_self (h : x.isNaN = false) : x ≤ x := (le_iff_place_le h h).mpr le_rfl

theorem le_of_le_of_le {z : Float} (h : x ≤ y) (h' : y ≤ z) : x ≤ z := by
  obtain ⟨hx, hy⟩ := isNaN_of_le h
  obtain ⟨-, hz⟩ := isNaN_of_le h'
  rw [le_iff_place_le hx hy] at h
  rw [le_iff_place_le hy hz] at h'
  exact (le_iff_place_le hx hz).mpr (h.trans h')

theorem le_and_not_le_of_lt (h : x < y) : x ≤ y ∧ ¬ y ≤ x := by
  obtain ⟨hx, hy⟩ := isNaN_of_lt h
  rw [lt_iff_place_lt hx hy] at h
  rw [le_iff_place_le hx hy, le_iff_place_le hy hx]
  exact ⟨h.le, not_le.mpr h⟩

theorem le_of_not_lt (hx : x.isNaN = false) (hy : y.isNaN = false) (h : ¬ x < y) : y ≤ x := by
  rw [lt_iff_place_lt hx hy] at h
  exact (le_iff_place_le hy hx).mpr (not_lt.mp h)

/-- Two numbers that are neither below the other are the same, or they are the two zeros. -/
theorem eq_or_zeros_of_le_of_le (h : x ≤ y) (h' : y ≤ x) :
    x = y ∨ (x = 0 ∧ y = -0) ∨ (x = -0 ∧ y = 0) := by
  obtain ⟨hx, hy⟩ := isNaN_of_le h
  rw [le_iff_place_le hx hy] at h
  rw [le_iff_place_le hy hx] at h'
  exact (Float.beq_iff_ne_nan_and_eq.mp ((beq_iff_place_eq hx hy).mpr (le_antisymm h h'))).2.2

end

end BenchCompare.Decimal
