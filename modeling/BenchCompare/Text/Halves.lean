/-!
# Pairs of halves

  The first half of a character is *high* and the second one is *low*, which
  their codes show.
-/

namespace BenchCompare.Text

/-- Whether a number is the first half of a pair that denotes a character beyond 16 bits. -/
def isHighHalf (n : Nat) : Bool := 0xd800 ≤ n && n ≤ 0xdbff

/-- Whether a number is the second half of such a pair. -/
def isLowHalf (n : Nat) : Bool := 0xdc00 ≤ n && n ≤ 0xdfff

/-- The character of a pair of halves. -/
def pairedChar (high low : Nat) : Char := Char.ofNat (0x10000 + (high - 0xd800) * 0x400 + (low - 0xdc00))
end BenchCompare.Text
