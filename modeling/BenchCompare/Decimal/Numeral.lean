import BenchCompare.Text.Blank
import BenchCompare.Text.Digit

/-!
# Reading numerals

Two kinds of numeral are read from text.

  * A *number* has a sign, digits with at most one point, and an exponent; or it is one of the words
    for an infinity and for not-a-number, in any case.
  * An *integer* has a sign and digits.

Blanks around a numeral are ignored, digits may come from any set of decimal digits, and a single
underscore may stand between two digits.  An integer with more than `maxDigits` digits is refused,
since reading it, and writing it out, would take too long.
-/

namespace BenchCompare.Decimal

/-! ### Digits -/

/-- The number that ASCII digits denote. -/
def natOfDigits (cs : List Char) : Nat := cs.foldl (fun n c => n * 10 + (c.toNat - '0'.toNat)) 0

/-- The longest integer numeral that is read. -/
def maxDigits : Nat := 4300

/-- Takes the underscores out of a numeral, each of which must stand between two digits.  `previous` is
the character before. -/
def dropUnderscores (previous : Char) : List Char → Option (List Char)
  | [] => some []
  | '_' :: rest =>
    if previous.isDigit && (rest.head?.any Char.isDigit) then dropUnderscores '_' rest else none
  | c :: rest => (dropUnderscores c rest).map (c :: ·)

/-- A numeral without its blanks and underscores, in ASCII digits. -/
def plainNumeral (s : String) : Option (List Char) :=
  dropUnderscores ' ' ((Text.trim Text.isNumeralBlank s.toList).map Text.foldDigit)

/-- The sign in front of a numeral, and the rest.  `true` stands for a minus sign. -/
def takeSign : List Char → Bool × List Char
  | '-' :: rest => (true, rest)
  | '+' :: rest => (false, rest)
  | cs => (false, cs)

/-! ### Numbers -/

/-- The binary64 number nearest to `mantissa * 10 ^ exponent`. -/
def nearest (mantissa : Nat) (exponent : Int) : Float :=
  Float.ofScientific mantissa (decide (exponent < 0)) exponent.natAbs

/-- The exponent that ends a numeral: nothing, or a letter, a sign and digits. -/
def readExponent : List Char → Option Int
  | [] => some 0
  | c :: rest =>
    let (negative, ds) := takeSign rest
    if (c = 'e' ∨ c = 'E') ∧ ds ≠ [] ∧ ds.all Char.isDigit then
      some (if negative then -(natOfDigits ds : Int) else natOfDigits ds)
    else none

/-- The number that an unsigned numeral denotes: digits on at least one side of the point. -/
def readUnsigned (cs : List Char) : Option Float :=
  let whole := cs.takeWhile Char.isDigit
  let (places, rest) :=
    match cs.dropWhile Char.isDigit with
    | '.' :: rest => (rest.takeWhile Char.isDigit, rest.dropWhile Char.isDigit)
    | rest => ([], rest)
  if whole.isEmpty && places.isEmpty then none
  else (readExponent rest).map fun e => nearest (natOfDigits (whole ++ places)) (e - places.length)

/-- The number that an unsigned word denotes. -/
def readWord (cs : List Char) : Option Float :=
  match String.ofList (cs.map Char.toLower) with
  | "inf" | "infinity" => some (Float.ofBits 0x7ff0000000000000)
  | "nan" => some (Float.ofBits 0x7ff8000000000000)
  | _ => none

/-- The number that a numeral denotes, rounded to the nearest binary64 number. -/
def readNumber (s : String) : Option Float := do
  let (negative, cs) := takeSign (← plainNumeral s)
  let x ← readWord cs <|> readUnsigned cs
  return if negative then -x else x

/-! ### Integers -/

/-- Why a text is no integer. -/
inductive IntegerFault
  /-- It is no numeral. -/
  | malformed
  /-- It is a numeral with more than `maxDigits` digits. -/
  | tooLong (digits : Nat)
  deriving DecidableEq, Repr

/-- The wording of the refusal of a numeral that is too long. -/
def tooLongMessage (digits : Nat) : String :=
  s!"Exceeds the limit ({maxDigits} digits) for integer string conversion: value has {digits} digits; "
    ++ "use sys.set_int_max_str_digits() to increase the limit"

/-- Whether an integer has few enough digits to be written out. -/
def isWritable (n : Int) : Bool := n.natAbs < Nat.pow 10 maxDigits

/-- The wording of the refusal to write an integer out. -/
def unwritableMessage : String :=
  s!"Exceeds the limit ({maxDigits} digits) for integer string conversion; "
    ++ "use sys.set_int_max_str_digits() to increase the limit"

/-- The integer that a sign and ASCII digits denote. -/
def readPlainInteger (cs : List Char) : Except IntegerFault Int :=
  let (negative, ds) := takeSign cs
  if ds.isEmpty || !ds.all Char.isDigit then .error .malformed
  else if maxDigits < ds.length then .error (.tooLong ds.length)
  else .ok (if negative then -(natOfDigits ds : Int) else natOfDigits ds)

/-- The integer that a numeral denotes. -/
def readInteger (s : String) : Except IntegerFault Int :=
  match plainNumeral s with
  | none => .error .malformed
  | some cs => readPlainInteger cs

end BenchCompare.Decimal
