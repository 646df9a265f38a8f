import BenchCompare.Decimal.Exact
import BenchCompare.Value.Basic

/-!
# Keys of mappings

  Any scalar can be a key.  Two scalars are one key if they have the same
  value: numbers are compared as numbers, whatever their kind, and truth values
  count as one and zero.  Not-a-number is one key, though it equals nothing.
-/

namespace BenchCompare

/-! ### Times -/

/-- The number of days before a day of the calendar, counted from a fixed day. -/
def Date.days (d : Date) : Nat :=
  let before := d.year - 1
  before * 365 + before / 4 - before / 100 + before / 400 +
    (List.range (d.month - 1)).foldl (fun n m => n + daysIn d.year (m + 1)) d.day

/-- The number of millionths of a second before a time of a day, counted from a fixed time. -/
def timeline (d : Date) (c : Clock) : Int :=
  (((d.days * 24 + c.hour) * 60 + c.minute) * 60 + c.second) * 1000000 + c.micro

/-- Whether two moments are the same.  Times that say how far their clocks are ahead are compared in
universal time, and are never the same as times that do not. -/
def Moment.same : Moment → Moment → Bool
  | day d, day e => d = e
  | time d c none, time e f none => d = e && c = f
  | time d c (some s), time e f (some t) => timeline d c - s * 1000000 = timeline e f - t * 1000000
  | _, _ => false

/-! ### Numbers -/

/-- The number that a scalar counts as: a quotient of an integer and a natural number. -/
def Scalar.number? : Scalar → Option (Int × Nat)
  | bool b => some (if b then 1 else 0, 1)
  | int n => some (n, 1)
  | float x =>
    match Decimal.Exact.ofFloat x with
    | .finite negative m e =>
      let n : Int := Decimal.numerator m e
      some (if negative then -n else n, Decimal.denominator e)
    | _ => none
  | _ => none

/-! ### Keys -/

/-- Whether two scalars are one key. -/
def Scalar.sameKey (a b : Scalar) : Bool :=
  match a.number?, b.number? with
  | some (m, d), some (n, e) => m * e = n * d
  | _, _ =>
    match a, b with
    | null, null => true
    | float x, float y => x == y || (x.isNaN && y.isNaN)
    | str s, str t => s = t
    | moment m, moment n => m.same n
    | foreign o, foreign o' => o = o'
    | _, _ => false

instance : BEq Scalar := ⟨Scalar.sameKey⟩

end BenchCompare
