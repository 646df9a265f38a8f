import BenchCompare.Decimal.Exact

/-!
# Numbers with a fixed number of places

A finite number is printed as the multiple of `10 ^ -places` nearest to its exact value, the one with
an even last digit if two are equally near.  The rounding is one division of natural numbers, so it is
exact for every number and every number of places.

A number with more than some two thousand million digits is printed as a zero instead.
-/

namespace BenchCompare.Decimal

/-! ### Rounding a quotient -/

/-- The natural number nearest to `num / den`, the even one of two equally near. -/
def roundDiv (num den : Nat) : Nat :=
  let q := num / den
  let r := num % den
  if 2 * r < den ∨ (2 * r = den ∧ q % 2 = 0) then q else q + 1

@[simp] theorem roundDiv_one (n : Nat) : roundDiv n 1 = n := by
  simp [roundDiv, Nat.mod_one]

/-! ### Digits -/

/-- The decimal numeral of a natural number. -/
def digits (n : Nat) : List Char := Nat.toDigits 10 n

/-- The last `places` digits of a natural number, with leading zeros, for `places` above zero. -/
def lastDigits (places n : Nat) : List Char := (digits (n % Nat.pow 10 places)).leftpad places '0'

/-- The numeral of `n / 10 ^ places`: the digits of the whole part, and after a point exactly `places`
digits; no point when there are no places. -/
def scaledDigits (places n : Nat) : List Char :=
  if places = 0 then digits n
  else digits (n / Nat.pow 10 places) ++ '.' :: lastDigits places n

/-- The text of an exact value with `places` places.  A zero keeps the sign bit it came from. -/
def Exact.fixed (places : Nat) : Exact → List Char
  | .nan => "nan".toList
  | .infinite negative => if negative then "-inf".toList else "inf".toList
  | .finite negative m e =>
    -- All rounding happens here, once.
    let scaled := roundDiv (numerator m e * Nat.pow 10 places) (denominator e)
    (if negative then ['-'] else []) ++ scaledDigits places scaled

/-- The text of a number with `places` places. -/
def fixed (places : Nat) (x : Float) : String :=
  String.ofList ((Exact.ofFloat x).fixed places)

/-! ### Numbers with too many digits -/

/-- Whether a number has more digits than the platform counts, with `places` of them behind the point.
It counts in thirty-two bits with a sign, numbers of at least one only, and no whole ones of at most
fifteen digits. -/
def Exact.isLost (places : Nat) : Exact → Bool
  | .finite _ m e =>
    let whole := numerator m e / denominator e
    decide (whole ≠ 0 ∧ 0x7fffffff < places + (digits whole).length ∧
      ¬ (numerator m e % denominator e = 0 ∧ whole < Nat.pow 10 15))
  | _ => false

/-- The text of a zero with the sign of a value.  It is what is printed where the count goes wrong. -/
def Exact.signedZero (places : Nat) : Exact → List Char
  | .finite negative _ _ => (if negative then ['-'] else []) ++ scaledDigits places 0
  | _ => []

/-- Whether a number has too many digits to be printed. -/
def isLost (places : Nat) (x : Float) : Bool := (Exact.ofFloat x).isLost places

/-- The zero that is printed in the place of a number. -/
def signedZero (places : Nat) (x : Float) : String := String.ofList ((Exact.ofFloat x).signedZero places)

end BenchCompare.Decimal
