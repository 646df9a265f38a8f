import BenchCompare.Json.Basic
import BenchCompare.Value.Moment

/-!
# Values of configurations

A configuration file holds values of any kind, and any scalar can be the key of a mapping.  JSON values
are among them.
-/

namespace BenchCompare

/-- Why a value cannot be shown. -/
inductive Unshown
  /-- An integer in it has too many digits. -/
  | longInteger
  /-- Lists and mappings lie too deep inside one another in it. -/
  | tooDeep
  deriving DecidableEq, Repr

/-- A value of a kind that a text only holds if it asks for it, such as a set or a byte string.  It is
known by what the program asks of it. -/
structure Foreign where
  /-- The name that messages have for its kind. -/
  kind : String
  /-- How it is shown, if it can be shown. -/
  literal : Text
  /-- Why it cannot be shown, if it cannot. -/
  unshown : Option Unshown
  /-- The integer that it stands for, if it stands for one. -/
  number : Option Int
  deriving DecidableEq, Repr

/-- A value without parts. -/
inductive Scalar
  /-- No value. -/
  | null
  /-- A truth value. -/
  | bool (b : Bool)
  /-- An integer. -/
  | int (n : Int)
  /-- A binary64 number. -/
  | float (x : Float)
  /-- A text. -/
  | str (t : Text)
  /-- A date or a time. -/
  | moment (m : Moment)
  /-- Something else. -/
  | foreign (o : Foreign)
  deriving Inhabited

/-- A value. -/
inductive Value
  /-- A value without parts. -/
  | scalar (s : Scalar)
  /-- A list. -/
  | list (items : List Value)
  /-- A mapping, its entries in the order in which their keys were first written. -/
  | mapping (entries : List (Scalar × Value))

namespace Value

instance : Inhabited Value := ⟨scalar .null⟩

/-- No value. -/
@[match_pattern] abbrev null : Value := scalar .null

/-- A text. -/
@[match_pattern] abbrev str (t : Text) : Value := scalar (.str t)

mutual

/-- A JSON value as a value. -/
def ofJson : Json → Value
  | .null => null
  | .bool b => scalar (.bool b)
  | .int n => scalar (.int n)
  | .float x => scalar (.float x)
  | .str t => str t
  | .arr items => list (ofItems items)
  | .obj fields => mapping (ofFields fields)

/-- The items of a JSON array as values. -/
def ofItems : List Json → List Value
  | [] => []
  | j :: rest => ofJson j :: ofItems rest

/-- The fields of a JSON object as entries. -/
def ofFields : List (Text × Json) → List (Scalar × Value)
  | [] => []
  | (name, j) :: rest => (.str name, ofJson j) :: ofFields rest

end

end Value

/-! ## Kinds -/

/-- The name that messages have for the kind of a scalar. -/
def Scalar.kind : Scalar → String
  | null => "NoneType"
  | bool _ => "bool"
  | int _ => "int"
  | float _ => "float"
  | str _ => "str"
  | moment (.day _) => "date"
  | moment (.time ..) => "datetime"
  | foreign o => o.kind

/-- The name that messages have for the kind of a value. -/
def Value.kind : Value → String
  | scalar s => s.kind
  | list _ => "list"
  | mapping _ => "dict"

/-- The name that messages have for the kind of a JSON value. -/
def Json.kind (j : Json) : String := (Value.ofJson j).kind

end BenchCompare
