import BenchCompare.Proofs.Decimal.Root
import BenchCompare.Proofs.Sample.Largest
import BenchCompare.Proofs.Sample.Moments
import Mathlib

/-! # Samples on which nothing is rounded

  Binary64 arithmetic rounds, and then the one-pass formula can be far from the
  variance.  On a sample where no operation rounds before the square root, it gives
  what exact arithmetic gives.

  * `Exactly op x y z`: the value of `z` is the exact result of an operation.
  * `ExactPass s sample`: no step of the pass rounds.
  * `NoRounding sample`: neither does what is computed from the sums.

  `Tracks` is the invariant of the pass: the sums have the values of the sums of the
  exact values.

  Main statement: `unrounded_moments`.
-/

namespace BenchCompare

open Decimal (Exact HasValue exists_hasValue_iff le_of_le_of_le eq_or_zeros_of_le_of_le
  hasValue_of_zero exists_hasValue_sqrt eq_zero_iff_of_abs_sub_le)

/-! ## Operations that do not round -/

/-- The exact result of an operation on two numbers is the value of a third one. -/
def Exactly (op : ℚ → ℚ → ℚ) (x y z : Float) : Prop :=
  ∃ p q, HasValue x p ∧ HasValue y q ∧ HasValue z (op p q)

/-- The exact quotient of a number by a count is the value of another number. -/
def DividesExactly (x : Float) (n : Nat) (z : Float) : Prop := ∃ p, HasValue x p ∧ HasValue z (p / n)

/-- One step of the pass does not round. -/
structure ExactPush (s : Sums Float) (x : Float) : Prop where
  /-- Adding the value. -/
  total : Exactly (· + ·) s.total x (s.total + x)
  /-- Squaring the value. -/
  square : Exactly (· * ·) x x (x * x)
  /-- Adding the square. -/
  squareTotal : Exactly (· + ·) s.squareTotal (x * x) (s.squareTotal + x * x)

/-- No step of the pass rounds. -/
def ExactPass (s : Sums Float) : List Float → Prop
  | [] => True
  | x :: sample => ExactPush s x ∧ ExactPass (s.push x) sample

/-- No operation before the square root rounds. -/
structure NoRounding (sample : List Float) : Prop where
  /-- Gathering the sums. -/
  pass : ExactPass ⟨0, 0, 0⟩ sample
  /-- Dividing the sum of the values. -/
  mean : DividesExactly (Sums.ofList sample).total (Sums.ofList sample).count
    (Sums.ofList sample).mean
  /-- Dividing the sum of the squares. -/
  squareMean : DividesExactly (Sums.ofList sample).squareTotal (Sums.ofList sample).count
    ((Sums.ofList sample).squareTotal / ((Sums.ofList sample).count : Float))
  /-- Squaring the mean. -/
  meanSquare : Exactly (· * ·) (Sums.ofList sample).mean (Sums.ofList sample).mean
    ((Sums.ofList sample).mean * (Sums.ofList sample).mean)
  /-- Taking the square of the mean from the mean of the squares. -/
  difference : Exactly (· - ·)
    ((Sums.ofList sample).squareTotal / ((Sums.ofList sample).count : Float))
    ((Sums.ofList sample).mean * (Sums.ofList sample).mean) (Sums.ofList sample).variance

/-- The exact values of the finite numbers of a sample. -/
def exactValues (sample : List Float) : List ℚ :=
  sample.filterMap fun x => (Exact.ofFloat x).rational?

/-! ## The pass -/

/-- The sums have the values of other sums. -/
structure Tracks (s : Sums Float) (r : Sums ℚ) : Prop where
  /-- They count the same number of values. -/
  count : s.count = r.count
  /-- The sum has its value. -/
  total : HasValue s.total r.total
  /-- The sum of the squares has its value. -/
  squareTotal : HasValue s.squareTotal r.squareTotal

section

variable {sample : List Float} {s : Sums Float} {r : Sums ℚ} {x y z : Float} {p q : ℚ} {n : Nat}

theorem Exactly.hasValue {op : ℚ → ℚ → ℚ} (h : Exactly op x y z) (hx : HasValue x p)
    (hy : HasValue y q) : HasValue z (op p q) := by
  obtain ⟨p', q', hx', hy', hz⟩ := h
  rwa [hx.unique hx', hy.unique hy']

theorem DividesExactly.hasValue (h : DividesExactly x n z) (hx : HasValue x p) :
    HasValue z (p / n) := by
  obtain ⟨p', hx', hz⟩ := h
  rwa [hx.unique hx']

theorem hasValue_zero : HasValue 0 0 := hasValue_of_zero (s := .positive) rfl

theorem tracks_zero : Tracks ⟨0, 0, 0⟩ ⟨0, 0, 0⟩ := ⟨rfl, hasValue_zero, hasValue_zero⟩

theorem ExactPush.exists_hasValue (h : ExactPush s x) : ∃ p, HasValue x p := by
  obtain ⟨p, -, hp, -⟩ := h.square
  exact ⟨p, hp⟩

/-- A step that does not round keeps track. -/
theorem Tracks.push (h : Tracks s r) (hs : ExactPush s x) (hx : HasValue x p) :
    Tracks (s.push x) (r.push p) where
  count := congrArg (· + 1) h.count
  total := hs.total.hasValue h.total hx
  squareTotal := hs.squareTotal.hasValue h.squareTotal (hs.square.hasValue hx hx)

theorem exactValues_cons (hx : HasValue x p) : exactValues (x :: sample) = p :: exactValues sample :=
  List.filterMap_cons_some hx

/-- A pass that does not round keeps track. -/
theorem Tracks.pass (h : Tracks s r) (hs : ExactPass s sample) :
    Tracks (sample.foldl Sums.push s) ((exactValues sample).foldl Sums.push r) := by
  induction sample generalizing s r with
  | nil => exact h
  | cons x sample ih =>
    obtain ⟨hpush, hrest⟩ := hs
    -- The value has an exact value, so both passes take one step.
    obtain ⟨p, hx⟩ := hpush.exists_hasValue
    rw [exactValues_cons hx]
    exact ih (h.push hpush hx) hrest

theorem ExactPass.exists_hasValue (hs : ExactPass s sample) : ∀ x ∈ sample, ∃ p, HasValue x p := by
  induction sample generalizing s with
  | nil => nofun
  | cons x sample ih =>
    obtain ⟨hpush, hrest⟩ := hs
    rw [List.forall_mem_cons]
    exact ⟨hpush.exists_hasValue, ih hrest⟩

/-! ## What is computed from the sums -/

theorem NoRounding.tracks (h : NoRounding sample) :
    Tracks (Sums.ofList sample) (Sums.ofList (exactValues sample)) := tracks_zero.pass h.pass

theorem NoRounding.hasValue_mean (h : NoRounding sample) :
    HasValue (Sums.ofList sample).mean (Sums.ofList (exactValues sample)).mean := by
  have hmean := h.mean.hasValue h.tracks.total
  rwa [h.tracks.count] at hmean

theorem NoRounding.hasValue_variance (h : NoRounding sample) :
    HasValue (Sums.ofList sample).variance (Sums.ofList (exactValues sample)).variance := by
  have hsquareMean := h.squareMean.hasValue h.tracks.squareTotal
  have hvariance := h.difference.hasValue hsquareMean
    (h.meanSquare.hasValue h.hasValue_mean h.hasValue_mean)
  rw [h.tracks.count] at hvariance
  exact hvariance

theorem mem_exactValues : p ∈ exactValues sample ↔ ∃ x ∈ sample, HasValue x p := List.mem_filterMap

theorem NoRounding.exists_hasValue (h : NoRounding sample) (hx : x ∈ sample) :
    ∃ p ∈ exactValues sample, HasValue x p := by
  obtain ⟨p, hp⟩ := h.pass.exists_hasValue x hx
  exact ⟨p, mem_exactValues.mpr ⟨x, hx, hp⟩, hp⟩

theorem NoRounding.exactValues_ne_nil (h : NoRounding sample) (hne : sample ≠ []) :
    exactValues sample ≠ [] := by
  obtain ⟨x, hx⟩ := List.exists_mem_of_ne_nil sample hne
  obtain ⟨p, hp, -⟩ := h.exists_hasValue hx
  exact List.ne_nil_of_mem hp

theorem NoRounding.exactMoments (h : NoRounding sample) (hne : sample ≠ []) :
    ExactMoments (exactValues sample) := BenchCompare.exactMoments (h.exactValues_ne_nil hne)

/-! ## Main statement -/

/-- Equal variances have equal roots: the two zeros have roots of their own, but those are equal,
too. -/
theorem sqrt_beq_sqrt (hx : HasValue x q) (hy : HasValue y q) (hq : 0 ≤ q) :
    (x.sqrt == y.sqrt) = true := by
  rcases eq_or_zeros_of_le_of_le ((hx.le_iff hy).mpr le_rfl) ((hy.le_iff hx).mpr le_rfl) with
    rfl | ⟨rfl, rfl⟩ | ⟨rfl, rfl⟩
  · obtain ⟨r, hr, -⟩ := exists_hasValue_sqrt hx hq
    exact (hr.beq_iff hr).mpr rfl
  · decide
  · decide

end

/-- What the summary of a sample is if nothing was rounded. -/
structure ExactSummary (sample : List Float) : Prop where
  /-- All values of the sample are finite. -/
  finite : ∀ x ∈ sample, x.isFinite = true
  /-- The mean is the arithmetic mean. -/
  mean : HasValue (Summary.ofSample sample).mean (average (exactValues sample))
  /-- It is not below the least value. -/
  least : ∃ x ∈ sample, (∀ y ∈ sample, x ≤ y) ∧ x ≤ (Summary.ofSample sample).mean
  /-- It is not above the maximum, which is the greatest value. -/
  greatest : (Summary.ofSample sample).maximum ∈ sample ∧
    (∀ y ∈ sample, y ≤ (Summary.ofSample sample).maximum) ∧
    (Summary.ofSample sample).mean ≤ (Summary.ofSample sample).maximum
  /-- The variance is the mean of the squared distances from the mean. -/
  variance : HasValue (Sums.ofList sample).variance (spread (exactValues sample))
  /-- It is not negative. -/
  nonneg : 0 ≤ (Sums.ofList sample).variance
  /-- The deviation is its square root, which is a number. -/
  root : (Summary.ofSample sample).deviation = (Sums.ofList sample).variance.sqrt ∧
    (Summary.ofSample sample).deviation.isNaN = false
  /-- It is as near to the standard deviation as a mantissa of 53 bits allows. -/
  near : ∃ r, HasValue (Summary.ofSample sample).deviation r ∧
    |(r : ℝ) - √((spread (exactValues sample) : ℚ) : ℝ)| ≤
      √((spread (exactValues sample) : ℚ) : ℝ) / 2 ^ 53
  /-- It is zero only for equal values. -/
  zero_iff : ((Summary.ofSample sample).deviation == 0) = true ↔
    ∀ x ∈ sample, ∀ y ∈ sample, (x == y) = true

/-- Two summaries with equal measures. -/
structure SameMeasures (s s' : Summary) : Prop where
  /-- The means are equal. -/
  mean : (s.mean == s'.mean) = true
  /-- The deviations are equal. -/
  deviation : (s.deviation == s'.deviation) = true
  /-- The maxima are equal. -/
  maximum : (s.maximum == s'.maximum) = true

section

variable {sample sample' : List Float}

/-- The values of a sample are all equal exactly if its exact values are. -/
theorem NoRounding.forall_beq_iff (h : NoRounding sample) :
    (∀ x ∈ sample, ∀ y ∈ sample, (x == y) = true) ↔
      ∀ p ∈ exactValues sample, ∀ q ∈ exactValues sample, p = q := by
  constructor
  · intro heq p hp q hq
    obtain ⟨x, hx, hxp⟩ := mem_exactValues.mp hp
    obtain ⟨y, hy, hyq⟩ := mem_exactValues.mp hq
    exact (hxp.beq_iff hyq).mp (heq x hx y hy)
  · intro heq x hx y hy
    obtain ⟨p, hp, hxp⟩ := h.exists_hasValue hx
    obtain ⟨q, hq, hyq⟩ := h.exists_hasValue hy
    exact (hxp.beq_iff hyq).mpr (heq p hp q hq)

theorem NoRounding.scanned (h : NoRounding sample) (hne : sample ≠ []) :
    Scanned sample (Summary.ofSample sample).maximum := by
  obtain ⟨x, hx⟩ := List.exists_mem_of_ne_nil sample hne
  obtain ⟨p, -, hp⟩ := h.exists_hasValue hx
  rw [maximum_ofSample hne]
  exact scanned_of_number ⟨x, hx, hp.isNaN⟩

theorem NoRounding.least (h : NoRounding sample) (hne : sample ≠ []) :
    ∃ x ∈ sample, (∀ y ∈ sample, x ≤ y) ∧ x ≤ (Sums.ofList sample).mean := by
  obtain ⟨p, hp, hle, hlemean⟩ := (h.exactMoments hne).least
  obtain ⟨x, hx, hxp⟩ := mem_exactValues.mp hp
  refine ⟨x, hx, ?_, (hxp.le_iff h.hasValue_mean).mpr hlemean⟩
  intro y hy
  obtain ⟨q, hq, hyq⟩ := h.exists_hasValue hy
  exact (hxp.le_iff hyq).mpr (hle q hq)

theorem NoRounding.greatest (h : NoRounding sample) (hne : sample ≠ []) :
    (∀ y ∈ sample, y ≤ (Summary.ofSample sample).maximum) ∧
      (Sums.ofList sample).mean ≤ (Summary.ofSample sample).maximum := by
  have hlargest : ∀ y ∈ sample, y ≤ (Summary.ofSample sample).maximum := by
    intro y hy
    obtain ⟨q, -, hq⟩ := h.exists_hasValue hy
    exact (h.scanned hne).largest y hy hq.isNaN
  obtain ⟨p, hp, -, hmeanle⟩ := (h.exactMoments hne).greatest
  obtain ⟨x, hx, hxp⟩ := mem_exactValues.mp hp
  exact ⟨hlargest, le_of_le_of_le ((h.hasValue_mean.le_iff hxp).mpr hmeanle) (hlargest x hx)⟩

theorem NoRounding.nonneg (h : NoRounding sample) (hne : sample ≠ []) :
    0 ≤ (Sums.ofList sample).variance :=
  (hasValue_zero.le_iff h.hasValue_variance).mpr (h.exactMoments hne).nonneg

theorem NoRounding.deviation_eq (h : NoRounding sample) (hne : sample ≠ []) :
    (Summary.ofSample sample).deviation = (Sums.ofList sample).variance.sqrt := by
  rw [ofSample_of_ne_nil hne]
  exact if_pos (h.nonneg hne)

theorem NoRounding.exactSummary (h : NoRounding sample) (hne : sample ≠ []) :
    ExactSummary sample := by
  have hmoments := h.exactMoments hne
  have hmean : (Summary.ofSample sample).mean = (Sums.ofList sample).mean := by
    rw [ofSample_of_ne_nil hne]
  obtain ⟨r, hr, hnear⟩ := exists_hasValue_sqrt h.hasValue_variance hmoments.nonneg
  rw [← h.deviation_eq hne] at hr
  have hzero := eq_zero_iff_of_abs_sub_le hmoments.nonneg hnear
  exact {
    finite := fun x hx => exists_hasValue_iff.mp (h.pass.exists_hasValue x hx)
    mean := by
      rw [hmean, ← hmoments.mean]
      exact h.hasValue_mean
    least := by
      rw [hmean]
      exact h.least hne
    greatest := by
      rw [hmean]
      exact ⟨(h.scanned hne).mem, h.greatest hne⟩
    variance := by
      rw [← hmoments.variance]
      exact h.hasValue_variance
    nonneg := h.nonneg hne
    root := ⟨h.deviation_eq hne, hr.isNaN⟩
    near := by
      rw [← hmoments.variance]
      exact ⟨r, hr, hnear⟩
    zero_iff := by
      rw [hr.beq_iff hasValue_zero, hzero, hmoments.zero_iff, h.forall_beq_iff] }

/-- Two arrangements of a sample have the same measures. -/
theorem NoRounding.sameMeasures (h : NoRounding sample) (h' : NoRounding sample')
    (hne : sample ≠ []) (hperm : sample.Perm sample') :
    SameMeasures (Summary.ofSample sample) (Summary.ofSample sample') := by
  have hne' : sample' ≠ [] := by
    rintro rfl
    exact hne (List.perm_nil.mp hperm)
  have hmoments := h.exactMoments hne
  -- The exact sums are the same, so the means and the variances have the same values.
  have hsums := hmoments.order _ (hperm.filterMap _)
  have hmean' := h'.hasValue_mean
  have hvariance' := h'.hasValue_variance
  rw [show Sums.ofList (exactValues sample') = Sums.ofList (exactValues sample) from hsums]
    at hmean' hvariance'
  have hscan := h.scanned hne
  have hscan' := h'.scanned hne'
  obtain ⟨p, -, hp⟩ := h.exists_hasValue hscan.mem
  obtain ⟨q, -, hq⟩ := h'.exists_hasValue hscan'.mem
  refine ⟨?_, ?_, ?_⟩
  · rw [ofSample_of_ne_nil hne, ofSample_of_ne_nil hne']
    exact (h.hasValue_mean.beq_iff hmean').mpr rfl
  · rw [h.deviation_eq hne, h'.deviation_eq hne']
    exact sqrt_beq_sqrt h.hasValue_variance hvariance' hmoments.nonneg
  · rw [hp.beq_iff hq]
    apply le_antisymm
    · exact (hp.le_iff hq).mp (hscan'.largest _ (hperm.mem_iff.mp hscan.mem) hp.isNaN)
    · exact (hq.le_iff hp).mp (hscan.largest _ (hperm.mem_iff.mpr hscan'.mem) hq.isNaN)

end

/-- **The one-pass formula gives the moments of a sample.**  Over exact numbers it always does, and over
binary64 numbers where nothing is rounded. -/
theorem unrounded_moments :
    (∀ values : List ℚ, values ≠ [] → ExactMoments values) ∧
      ∀ sample : List Float, sample ≠ [] → NoRounding sample → ExactSummary sample ∧
        ∀ sample' : List Float, sample.Perm sample' → NoRounding sample' →
          SameMeasures (Summary.ofSample sample) (Summary.ofSample sample') := by
  refine ⟨fun values hne => exactMoments hne, ?_⟩
  intro sample hne h
  exact ⟨h.exactSummary hne, fun sample' hperm h' => h.sameMeasures h' hne hperm⟩

/-- Nothing is rounded where the mean is two and the deviation is one. -/
theorem noRounding_one_three : NoRounding [1, 3] where
  pass := by
    have hfirst : ExactPush ⟨0, 0, 0⟩ 1 :=
      ⟨⟨0, 1, by decide +kernel⟩, ⟨1, 1, by decide +kernel⟩, ⟨0, 1, by decide +kernel⟩⟩
    have hsecond : ExactPush (Sums.push ⟨0, 0, 0⟩ 1) 3 :=
      ⟨⟨1, 3, by decide +kernel⟩, ⟨3, 3, by decide +kernel⟩, ⟨1, 9, by decide +kernel⟩⟩
    exact ⟨hfirst, hsecond, trivial⟩
  mean := ⟨4, by decide +kernel⟩
  squareMean := ⟨10, by decide +kernel⟩
  meanSquare := ⟨2, 2, by decide +kernel⟩
  difference := ⟨5, 4, by decide +kernel⟩

theorem unrounded_moments_one_three : NoRounding [1, 3] ∧ ExactSummary [1, 3] :=
  ⟨noRounding_one_three,
    (unrounded_moments.2 [1, 3] (List.cons_ne_nil 1 [3]) noRounding_one_three).1⟩

end BenchCompare
