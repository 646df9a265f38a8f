import BenchCompare.Decimal.Fixed

/-!
# The shortest decimal of a binary64 number

A binary64 number stands for an interval of reals, those that round to it.  Its shortest decimal is the
one with the fewest digits in that interval, and of those the one nearest to the number.

For each number of digits the decimals with that many digits form a grid, and if any point of the grid
lies in the interval then one of the two grid points around the number does.  So the search tries these
two on the grids of 1, 2, … 17 digits and takes the first hit; on the last grid there always is one.
-/

namespace BenchCompare.Decimal

/-! ### The interval of a number -/

/-- The reals that round to a number, as a fraction of which the three numerators share one denominator:
the lower end, the number itself, the upper end. -/
structure Interval where
  /-- The numerator of the lower end. -/
  low : Nat
  /-- The numerator of the number. -/
  mid : Nat
  /-- The numerator of the upper end. -/
  high : Nat
  /-- The common denominator. -/
  den : Nat
  /-- Whether the two ends round to the number. -/
  closed : Bool

/-- The interval of `m * 2 ^ e`.  It reaches half a unit to each side, but only a quarter below the
smallest mantissa of an exponent, where the numbers below lie twice as dense. -/
def Interval.ofParts (m : Nat) (e : Int) : Interval :=
  let below := if m = Nat.pow 2 52 ∧ -1074 < e then 1 else 2
  ⟨numerator (4 * m - below) (e - 2), numerator (4 * m) (e - 2), numerator (4 * m + 2) (e - 2),
    denominator (e - 2), m % 2 = 0⟩

/-- The interval in units of `10 ^ unit`. -/
def Interval.scale (unit : Int) (i : Interval) : Interval :=
  let up := Nat.pow 10 (-unit).toNat
  ⟨i.low * up, i.mid * up, i.high * up, i.den * Nat.pow 10 unit.toNat, i.closed⟩

/-- Whether a whole number of units lies in the interval. -/
def Interval.contains (i : Interval) (c : Nat) : Bool :=
  if i.closed then i.low ≤ c * i.den && c * i.den ≤ i.high
  else i.low < c * i.den && c * i.den < i.high

/-! ### The search -/

/-- The number of digits before the point of a positive `num / den`; for a number below one, zero or
less by the zeros after the point. -/
def pointPlace (num den : Nat) : Int :=
  if den ≤ num then (digits (num / den)).length else 1 - ((digits ((den - 1) / num)).length : Int)

/-- The grid point in the interval that is nearest to the number, among the two around the number; the
even one of two equally near. -/
def Interval.hit? (i : Interval) : Option Nat :=
  let c := i.mid / i.den
  let twice := 2 * (i.mid % i.den)
  match i.contains c, i.contains (c + 1) with
  | true, true => some (if twice < i.den ∨ (twice = i.den ∧ c % 2 = 0) then c else c + 1)
  | true, false => some c
  | false, true => some (c + 1)
  | false, false => none

/-- A decimal: the digits without zeros at the end, and how many of them stand before the point. -/
structure Digits where
  /-- The significant digits. -/
  significant : List Char
  /-- The place of the point, counted from before the first digit. -/
  point : Int

/-- The shortest decimal of `m * 2 ^ e`. -/
def shortest (m : Nat) (e : Int) : Digits :=
  if m = 0 then ⟨['0'], 1⟩
  else
    let interval := Interval.ofParts m e
    let place := pointPlace interval.mid interval.den
    let tried := (List.range 17).findSome? fun k =>
      -- The grid of `k + 1` digits.
      let unit := place - ((k + 1 : Nat) : Int)
      ((interval.scale unit).hit?).map fun c =>
        let ds := digits c
        -- Only a power of ten has zeros at its end here: any other would be a hit of a coarser grid.
        Digits.mk (ds.reverse.dropWhile (· = '0')).reverse (ds.length + unit)
    tried.getD ⟨digits m, (digits m).length⟩

/-! ### Style -/

/-- How a decimal is laid out: written out while the point is near, with an exponent otherwise. -/
structure Style where
  /-- A decimal whose point does not lie after this place is written with an exponent. -/
  lowPoint : Int
  /-- A decimal whose point lies after this place is written with an exponent. -/
  highPoint : Int
  /-- The least number of digits of an exponent. -/
  exponentWidth : Nat

/-- Numbers are written out from `0.0001` up to, and without, `10 ^ 16`; exponents have two digits. -/
def plainStyle : Style := ⟨-4, 16, 2⟩

/-- The digits written out, with at least one digit on each side of the point. -/
def writtenOut (d : Digits) : List Char :=
  let ds := d.significant
  if d.point ≤ 0 then '0' :: '.' :: List.replicate (-d.point).toNat '0' ++ ds
  else
    let whole := d.point.toNat
    ds.take whole ++ List.replicate (whole - ds.length) '0' ++ '.' ::
      (if ds.length ≤ whole then ['0'] else ds.drop whole)

/-- The digits with the point after the first one, and the power of ten that makes up for it. -/
def withExponent (width : Nat) (d : Digits) : List Char :=
  let exponent := d.point - 1
  d.significant.take 1 ++
    (if d.significant.length ≤ 1 then [] else '.' :: d.significant.drop 1) ++
    'e' :: (if exponent < 0 then '-' else '+') :: (digits exponent.natAbs).leftpad width '0'

/-- The text of a decimal. -/
def Digits.render (l : Style) (d : Digits) : List Char :=
  if l.lowPoint < d.point ∧ d.point ≤ l.highPoint then writtenOut d else withExponent l.exponentWidth d

/-- The shortest text that reads back as the number. -/
def shortestText (x : Float) : String :=
  match Exact.ofFloat x with
  | .nan => "nan"
  | .infinite negative => if negative then "-inf" else "inf"
  | .finite negative m e =>
    String.ofList ((if negative then ['-'] else []) ++ (shortest m e).render plainStyle)

end BenchCompare.Decimal
