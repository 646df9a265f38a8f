import BenchCompare.Decimal.Numeral
import BenchCompare.Decimal.Shortest
import BenchCompare.Text.Quoted
import BenchCompare.Value.Basic

/-!
# Values as text

A value is shown in two ways.  Its *literal* is how it would be written in a program: a text between
quotes, brackets around a list.  Its *text* is the same except that a text stands for itself.
-/

namespace BenchCompare

/-- The literal of a scalar. -/
def Scalar.literal : Scalar → Text
  | null => "None"
  | bool b => if b then "True" else "False"
  | int n => toString n
  | float x => Decimal.shortestText x
  | str t => Text.quoted t
  | moment m => m.call
  | foreign o => o.literal

/-- The text of a scalar. -/
def Scalar.text : Scalar → Text
  | str t => t
  | moment m => m.text
  | s => s.literal

/-- Why a scalar cannot be shown, if it cannot: an integer must not have too many digits. -/
def Scalar.unshown? : Scalar → Option Unshown
  | int n => if Decimal.isWritable n then none else some .longInteger
  | foreign o => o.unshown
  | _ => none

namespace Value

mutual

/-- The literal of a value. -/
def literal : Value → Text
  | scalar s => s.literal
  | list items => "[" ++ Text.intercalate ", " (itemLiterals items) ++ "]"
  | mapping entries => "\x7b" ++ Text.intercalate ", " (entryLiterals entries) ++ "\x7d"

/-- The literals of items. -/
def itemLiterals : List Value → List Text
  | [] => []
  | v :: rest => v.literal :: itemLiterals rest

/-- The literals of entries, a colon behind each key. -/
def entryLiterals : List (Scalar × Value) → List Text
  | [] => []
  | (k, v) :: rest => (k.literal ++ ": " ++ v.literal) :: entryLiterals rest

end

/-- The text of a value. -/
def text : Value → Text
  | scalar s => s.text
  | v => v.literal

/-! ### Values that cannot be shown -/

/-- How deep lists and mappings may lie inside one another in a value that is shown, as a rule. -/
def usualRoom : Nat := 980

mutual

/-- Why a value cannot be shown, if it cannot: the first reason on the way through its parts.  `room` is how
deep lists and mappings that are not empty may lie inside one another. -/
def unshown? (room : Nat) : Value → Option Unshown
  | scalar s => s.unshown?
  | list items => itemsUnshown? room items
  | mapping entries => entriesUnshown? room entries

/-- Why the items of a list cannot be shown, if they cannot. -/
def itemsUnshown? : Nat → List Value → Option Unshown
  | _, [] => none
  | 0, _ :: _ => some .tooDeep
  | room + 1, v :: rest => (v.unshown? room).or (itemsUnshown? (room + 1) rest)

/-- Why the entries of a mapping cannot be shown, if they cannot. -/
def entriesUnshown? : Nat → List (Scalar × Value) → Option Unshown
  | _, [] => none
  | 0, _ :: _ => some .tooDeep
  | room + 1, (k, v) :: rest =>
    k.unshown?.or ((v.unshown? room).or (entriesUnshown? (room + 1) rest))

end

end Value

/-- The text of a JSON value. -/
def Json.text (j : Json) : Text := (Value.ofJson j).text

@[simp] theorem Json.text_str (t : Text) : (Json.str t).text = t := by
  simp [Json.text, Value.ofJson, Value.text, Scalar.text]

end BenchCompare
