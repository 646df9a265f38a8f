import BenchCompare.Decimal.Fixed
import BenchCompare.Proofs.Decimal.Numeral

/-! # Numbers are written without blanks

  The text of a number with a fixed number of places is made of digits, a point and
  a sign, or it is a word.

  Main statements: `isSolid_fixed` and `isSolid_toString`.
-/

namespace BenchCompare.Decimal

/-- A text that is not empty and has no blanks in it. -/
def IsSolid (s : String) : Prop := s.toList ≠ [] ∧ ∀ c ∈ s.toList, Text.isBlank c = false

instance (s : String) : Decidable (IsSolid s) :=
  decidable_of_iff (s.toList ≠ [] ∧ (s.toList.all fun c => !Text.isBlank c) = true) (by simp [IsSolid])

variable {c : Char} {places n : Nat}

theorem isDigit_of_mem_digits (h : c ∈ digits n) : c.isDigit = true :=
  Nat.isDigit_of_mem_toDigits (by decide) (by decide) h

theorem isDigit_of_mem_lastDigits (h : c ∈ lastDigits places n) : c.isDigit = true := by
  unfold lastDigits List.leftpad at h
  rcases List.mem_append.mp h with hzero | hdigit
  · rw [(List.mem_replicate.mp hzero).2]
    decide
  · exact isDigit_of_mem_digits hdigit

theorem scaledDigits_ne_nil (places n : Nat) : scaledDigits places n ≠ [] := by
  unfold scaledDigits
  split
  · exact Nat.toDigits_ne_nil
  · simp

theorem isBlank_of_mem_scaledDigits (h : c ∈ scaledDigits places n) : Text.isBlank c = false := by
  unfold scaledDigits at h
  split at h
  · exact isBlank_of_isDigit (isDigit_of_mem_digits h)
  · rw [List.mem_append, List.mem_cons] at h
    rcases h with hwhole | rfl | hplaces
    · exact isBlank_of_isDigit (isDigit_of_mem_digits hwhole)
    · decide
    · exact isBlank_of_isDigit (isDigit_of_mem_lastDigits hplaces)

/-- Digits behind a sign, or behind none. -/
theorem isSolid_signed (negative : Bool) (places n : Nat) :
    IsSolid (String.ofList ((if negative then ['-'] else []) ++ scaledDigits places n)) := by
  unfold IsSolid
  rw [String.toList_ofList]
  refine ⟨List.append_ne_nil_of_right_ne_nil _ (scaledDigits_ne_nil places _), ?_⟩
  intro c hc
  rcases List.mem_append.mp hc with hsign | hdigits
  · cases negative with
    | false => cases hsign
    | true =>
      rw [List.mem_singleton.mp hsign]
      decide
  · exact isBlank_of_mem_scaledDigits hdigits

theorem isSolid_fixed (places : Nat) (x : Float) : IsSolid (fixed places x) := by
  have hword : ∀ word : String, IsSolid word → IsSolid (String.ofList word.toList) := by
    intro word h
    rwa [String.ofList_toList]
  unfold fixed
  cases Exact.ofFloat x with
  | nan => exact hword "nan" (by decide)
  | infinite negative =>
    cases negative with
    | false => exact hword "inf" (by decide)
    | true => exact hword "-inf" (by decide)
  | finite negative m e => exact isSolid_signed negative places _

/-- Only a finite number is lost, so a zero is printed. -/
theorem isSolid_signedZero {x : Float} (h : isLost places x = true) : IsSolid (signedZero places x) := by
  unfold isLost at h
  unfold signedZero
  cases hx : Exact.ofFloat x with
  | nan =>
    rw [hx] at h
    cases h
  | infinite negative =>
    rw [hx] at h
    cases h
  | finite negative m e => exact isSolid_signed negative places 0

theorem fixed_ne_empty (places : Nat) (x : Float) : fixed places x ≠ "" := by
  rw [ne_eq, ← String.toList_eq_nil_iff]
  exact (isSolid_fixed places x).1

theorem isSolid_toString (n : Nat) : IsSolid (toString n) := by
  have hdigits : (toString n).toList = digits n := Nat.toList_repr
  unfold IsSolid
  rw [hdigits]
  exact ⟨Nat.toDigits_ne_nil, fun _ hc => isBlank_of_isDigit (isDigit_of_mem_digits hc)⟩

end BenchCompare.Decimal
