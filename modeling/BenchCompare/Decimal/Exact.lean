/-!
# Exact values of binary64 numbers

Printing a number correctly needs its exact value, and a finite binary64 number is a natural number
times a power of two.  `Exact` holds that value, apart from the three kinds of number that have none,
and every printer of this library starts from it.  Powers are written `Nat.pow b e`.
-/

namespace BenchCompare.Decimal

/-- The value of a binary64 number: for a finite one its sign bit and its magnitude
`mantissa * 2 ^ exponent`. -/
inductive Exact
  /-- Not a number. -/
  | nan
  /-- An infinity; `negative` is its sign bit. -/
  | infinite (negative : Bool)
  /-- A finite number, the two zeros with a zero mantissa. -/
  | finite (negative : Bool) (mantissa : Nat) (exponent : Int)
  deriving DecidableEq, Repr

/-- Whether a sign is the negative one. -/
def isNegative : Float.Model.UnpackedFloat.Sign → Bool
  | .negative => true
  | .positive => false

/-- The exact value of a number. -/
def Exact.ofFloat (x : Float) : Exact :=
  match x.toModel.unpack with
  | .notANumber => .nan
  | .infinity s => .infinite (isNegative s)
  | .zero s => .finite (isNegative s) 0 0
  | .finite s m e _ => .finite (isNegative s) m e

/-! ### Magnitudes as quotients -/

/-- The numerator of `mantissa * 2 ^ exponent` written as a quotient of natural numbers. -/
def numerator (mantissa : Nat) (exponent : Int) : Nat := mantissa * Nat.pow 2 exponent.toNat

/-- The denominator of `mantissa * 2 ^ exponent` written as a quotient of natural numbers. -/
def denominator (exponent : Int) : Nat := Nat.pow 2 (-exponent).toNat

theorem denominator_pos (exponent : Int) : 0 < denominator exponent := Nat.two_pow_pos _

end BenchCompare.Decimal
