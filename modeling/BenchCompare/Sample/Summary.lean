/-!
# Summaries of samples

A sample is the list of values gathered for one metric on one side of a comparison.  Its summary has
three measures:

  * the arithmetic mean,
  * the population standard deviation, by the one-pass formula `√(Σx²/n - mean²)`,
  * the maximum, under which a NaN never counts.

The sums are stated over any type of numbers, so that the same formula can be read over binary64
numbers, where it rounds, and over exact rationals, where it does not.
-/

namespace BenchCompare

/-- A count, as the binary64 number nearest to it. -/
instance natCastFloat : NatCast Float := ⟨Float.ofNat⟩

/-! ## Sums of one pass -/

/-- What one pass over a sample gathers. -/
structure Sums (α : Type) where
  /-- How many values there are. -/
  count : Nat
  /-- The sum of the values. -/
  total : α
  /-- The sum of their squares. -/
  squareTotal : α

namespace Sums

variable {α : Type} [Add α] [Mul α]

/-- The sums with one more value. -/
def push (s : Sums α) (x : α) : Sums α :=
  ⟨s.count + 1, s.total + x, s.squareTotal + x * x⟩

/-- The sums of a sample, added up from the left. -/
def ofList [OfNat α 0] (sample : List α) : Sums α := sample.foldl push ⟨0, 0, 0⟩

/-- The arithmetic mean. -/
def mean [Div α] [NatCast α] (s : Sums α) : α := s.total / (s.count : α)

/-- The mean of the squares less the square of the mean: the population variance, where arithmetic is
exact. -/
def variance [Sub α] [Div α] [NatCast α] (s : Sums α) : α :=
  s.squareTotal / (s.count : α) - s.mean * s.mean

end Sums

/-! ## Measures of binary64 samples -/

/-- Not a number: the measure of an empty sample. -/
def nan : Float := Float.ofBits 0x7ff8000000000000

/-- Negative infinity: below every number. -/
def negInfinity : Float := Float.ofBits 0xfff0000000000000

/-- The first of the largest values that are numbers, from a starting value on. -/
def maximumFrom (start : Float) (sample : List Float) : Float :=
  sample.foldl (fun m x => if m < x then x else m) start

/-- The square root of a variance.  Rounding can push a variance below zero, and then there is none. -/
def deviation (variance : Float) : Float := if 0 ≤ variance then variance.sqrt else nan

/-- Mean, population standard deviation and maximum of one sample. -/
structure Summary where
  /-- The arithmetic mean. -/
  mean : Float
  /-- The population standard deviation. -/
  deviation : Float
  /-- The largest value. -/
  maximum : Float

namespace Summary

/-- The summary of no values at all, and of a sample not summarised yet. -/
def empty : Summary := ⟨nan, nan, nan⟩

/-- The summary of a sample. -/
def ofSample : List Float → Summary
  | [] => empty
  | sample =>
    let sums := Sums.ofList sample
    ⟨sums.mean, BenchCompare.deviation sums.variance, maximumFrom negInfinity sample⟩

@[simp] theorem ofSample_nil : ofSample [] = empty := rfl

end Summary

end BenchCompare
