import BenchCompare.Decimal.Fixed

/-!
# Cells that hold a statistic

A report shows a statistic with a chosen number of places and `N/A` where there is none; an export
writes six places and leaves the cell empty.
-/

namespace BenchCompare.Layout

/-- Why a statistic cannot be shown. -/
inductive CellError
  /-- The number of places is below zero. -/
  | negativePlaces
  /-- There are more places than a number is ever written with. -/
  | tooManyPlaces
  /-- The number of places is itself too great to be read. -/
  | hugePlaces
  deriving DecidableEq, Repr

/-- The wording of an error. -/
def CellError.message : CellError → String
  | .negativePlaces => "Format specifier missing precision"
  | .tooManyPlaces => "precision too big"
  | .hugePlaces => "Too many decimal digits in format string"

/-- The places shown unless others are asked for. -/
def defaultPlaces : Int := 3

/-- A statistic in a report. -/
def statisticText (places : Int) (x : Float) : Except CellError String :=
  if x.isNaN then .ok "N/A"
  else if places < 0 then .error .negativePlaces
  else if 0x7fffffffffffffff < places then .error .hugePlaces
  else if 0x7fffffff < places then .error .tooManyPlaces
  else if Decimal.isLost places.toNat x then .ok (Decimal.signedZero places.toNat x)
  else .ok (Decimal.fixed places.toNat x)

/-- A statistic in an export. -/
def exportedText (x : Float) : String := if x.isNaN then "" else Decimal.fixed 6 x

end BenchCompare.Layout
