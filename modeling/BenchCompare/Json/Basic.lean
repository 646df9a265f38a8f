import BenchCompare.Text.Basic

/-!
# JSON values

The values of run documents.  Numbers written without a point and an exponent are integers of any size,
all others are binary64 numbers.  The fields of an object keep the order in which they were written.
-/

namespace BenchCompare

/-- A JSON value. -/
inductive Json
  /-- The literal `null`. -/
  | null
  /-- The literals `true` and `false`. -/
  | bool (b : Bool)
  /-- A number without a point and an exponent. -/
  | int (n : Int)
  /-- Any other number, and the words for infinities and not-a-number. -/
  | float (x : Float)
  /-- A string. -/
  | str (t : Text)
  /-- An array. -/
  | arr (items : List Json)
  /-- An object. -/
  | obj (fields : List (Text × Json))
  deriving Inhabited

namespace Json

/-- Whether a value counts as missing: `null`, `false`, the zeros and whatever is empty. -/
def isBlank : Json → Bool
  | null => true
  | bool b => !b
  | int n => n = 0
  | float x => x == 0
  | str t => t.isEmpty
  | arr items => items.isEmpty
  | obj fields => fields.isEmpty

/-- The value under a name, if the name is there. -/
def lookup (name : Text) (fields : List (Text × Json)) : Json :=
  (fields.lookup name).getD null

end Json

/-- The fields with one more: a name that is there already keeps its place and takes the new value. -/
def insertField {α β : Type} [BEq α] (name : α) (v : β) : List (α × β) → List (α × β)
  | [] => [(name, v)]
  | (n, w) :: rest => if n == name then (n, v) :: rest else (n, w) :: insertField name v rest

end BenchCompare
