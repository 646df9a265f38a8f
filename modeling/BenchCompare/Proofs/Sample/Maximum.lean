import BenchCompare.Proofs.Decimal.Ordering
import BenchCompare.Sample.Summary
import Mathlib

/-! # The maximum of a sample

  The maximum is found by a scan that starts at negative infinity and takes a
  value only if it is above what was taken before.  A value that is a number is
  above the start, or it is negative infinity itself, of which there is one
  only.  So a sample of numbers loses its start at the first value:

  * `negInfinity_lt_or_eq`: what is not above negative infinity.
  * `maximum_mem`: the maximum of a sample of numbers is one of them.
-/

namespace BenchCompare

open Float.Model Float.Model.UnpackedFloat

/-! ### Negative infinity -/

theorem toNat_of_negative {b : BitVec 1} (h : Sign.ofBitVec b = .negative) : b.toNat = 1 := by
  have hlt : b.toNat < 2 := b.isLt
  have hne : b.toNat ≠ 0 := by
    intro hzero
    have hpositive : b = 0#1 := BitVec.eq_of_toNat_eq hzero
    rw [hpositive] at h
    cases h
  omega

/-- There is one negative infinity. -/
theorem eq_negInfinity_of_unpack {x : Float} (h : x.toModel.unpack = .infinity .negative) :
    x = negInfinity := by
  have hbits : x.toModel.toBits.toBitVec.toNat = 0xfff0000000000000 := by
    rw [Decimal.toNat_eq_unpacked x.toModel.toBits.toBitVec]
    unfold Float.Model.unpack UnpackedFloat.unpack at h
    dsimp only at h
    split_ifs at h with hexponent hmantissa hzero
    rw [UnpackedFloat.infinity.injEq] at h
    rw [toNat_of_negative h, hexponent, hmantissa]
    rfl
  obtain ⟨⟨bits, valid⟩⟩ := x
  have heq : bits = negInfinity.toModel.toBits := UInt64.toNat_inj.mp hbits
  subst heq
  rfl

/-- A number is above negative infinity, or it is negative infinity. -/
theorem negInfinity_lt_or_eq {x : Float} (h : x.isNaN = false) :
    negInfinity < x ∨ x = negInfinity := by
  have hnumber : x.toModel.unpack.isNaN = false := h
  have hlt : negInfinity < x ↔
      (UnpackedFloat.compare (.infinity .negative) x.toModel.unpack == some .lt) = true :=
    decide_eq_true_iff
  rw [hlt]
  cases hx : x.toModel.unpack with
  | notANumber =>
    rw [hx] at hnumber
    cases hnumber
  | infinity s =>
    cases s with
    | positive => exact .inl rfl
    | negative => exact .inr (eq_negInfinity_of_unpack hx)
  | zero s => exact .inl rfl
  | finite s m e hm => exact .inl rfl

/-! ### Scanning -/

/-- A scan ends with its start or with a value that it has met. -/
theorem maximumFrom_mem (start : Float) (sample : List Float) :
    maximumFrom start sample ∈ start :: sample := by
  induction sample generalizing start with
  | nil => exact List.mem_singleton_self start
  | cons x sample ih =>
    have hrest := ih (if start < x then x else start)
    show maximumFrom (if start < x then x else start) sample ∈ start :: x :: sample
    split at hrest
    · next hlt =>
      rw [if_pos hlt]
      exact List.mem_cons_of_mem start hrest
    · next hle =>
      rw [if_neg hle]
      rcases List.mem_cons.mp hrest with hstart | hmem
      · exact List.mem_cons.mpr (.inl hstart)
      · exact List.mem_cons_of_mem start (List.mem_cons_of_mem x hmem)

/-- The first number of a sample takes the place of negative infinity. -/
theorem maximumFrom_negInfinity_cons {x : Float} (h : x.isNaN = false) (sample : List Float) :
    maximumFrom negInfinity (x :: sample) = maximumFrom x sample := by
  show maximumFrom (if negInfinity < x then x else negInfinity) sample = _
  rcases negInfinity_lt_or_eq h with hlt | heq
  · rw [if_pos hlt]
  · rw [heq, ite_self]

namespace Summary

theorem maximum_mem {sample : List Float} (hne : sample ≠ []) (h : ∀ x ∈ sample, x.isNaN = false) :
    (ofSample sample).maximum ∈ sample := by
  cases sample with
  | nil => exact absurd rfl hne
  | cons x sample =>
    show maximumFrom negInfinity (x :: sample) ∈ x :: sample
    rw [maximumFrom_negInfinity_cons (h x List.mem_cons_self)]
    exact maximumFrom_mem x sample

/-- A sample of numbers has a maximum unless it is empty. -/
theorem isNaN_maximum_iff {sample : List Float} (h : ∀ x ∈ sample, x.isNaN = false) :
    (ofSample sample).maximum.isNaN = true ↔ sample = [] := by
  constructor
  · intro hnan
    by_contra hne
    rw [h _ (maximum_mem hne h)] at hnan
    cases hnan
  · rintro rfl
    show nan.isNaN = true
    decide

end Summary

end BenchCompare
