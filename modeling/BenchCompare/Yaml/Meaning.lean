import BenchCompare.Decimal.Numeral
import BenchCompare.Text.Lines
import BenchCompare.Value.Basic
import BenchCompare.Yaml.Quoted

/-!
# What plain scalars mean

  A plain scalar is null, a truth value, an integer, a number, a date or a time
  if it is written like one, and a text otherwise.

  - An integer is binary behind `0b`, hexadecimal behind `0x`, octal behind any
    other zero, and decimal otherwise.
  - A number has a point; an exponent has a sign.
  - Either may be given in places of sixty, between colons: `1:30` is ninety.
  - Underscores between and behind the digits are ignored.
-/

namespace BenchCompare.Yaml

/-! ### Words -/

/-- The words that mean nothing. -/
def nullWords : List String := ["", "~", "null", "Null", "NULL"]

/-- The words that mean yes. -/
def trueWords : List String := ["yes", "Yes", "YES", "true", "True", "TRUE", "on", "On", "ON"]

/-- The words that mean no. -/
def falseWords : List String := ["no", "No", "NO", "false", "False", "FALSE", "off", "Off", "OFF"]

/-- The words that are reserved. -/
def reservedWords : List String := ["<<", "="]

/-! ### Digits -/

/-- Whether a character may stand in a numeral behind its first digit. -/
def isNumeric (c : Char) : Bool := c.isDigit || c = '_'

/-- The digits of a numeral. -/
def plainDigits (cs : List Char) : List Char := cs.filter (· ≠ '_')

/-- Whether it is a place of a numeral in places of sixty, behind the first one. -/
def isSixtieth : List Char → Bool
  | [a] => a.isDigit
  | [a, b] => '0' ≤ a && a ≤ '5' && b.isDigit
  | _ => false

/-- The integer that decimal digits denote. -/
def decimal (cs : List Char) : Except Fault Nat :=
  let ds := plainDigits cs
  if Decimal.maxDigits < ds.length then .error (.longInteger ds.length) else .ok (Decimal.natOfDigits ds)

/-- The integer that digits of another base denote. -/
def based (base : Nat) (cs : List Char) : Except Fault Nat :=
  let ds := plainDigits cs
  if ds.isEmpty then .error (.noDigits base)
  else .ok (ds.foldl (fun n c => n * base + (hexDigit? c).getD 0) 0)

/-! ### Integers -/

/-- Whether digits behind the sign of a base are digits of that base. -/
def areDigits (base : Nat) (cs : List Char) : Bool :=
  !cs.isEmpty && cs.all fun c => c = '_' || (hexDigit? c).any (· < base)

/-- The integer that places of sixty denote. -/
def sixtieths (parts : List (List Char)) : Except Fault Nat :=
  parts.foldlM (fun n part => do return n * 60 + (← decimal part)) 0

/-- The natural number that a scalar without a sign means, if it is written like one. -/
def natural? (cs : List Char) : Option (Except Fault Nat) :=
  match cs with
  | '0' :: 'b' :: ds => if areDigits 2 ds then some (based 2 ds) else none
  | '0' :: 'x' :: ds => if areDigits 16 ds then some (based 16 ds) else none
  | '0' :: ds => if ds.isEmpty || areDigits 8 ds then some (based 8 cs) else none
  | c :: _ =>
    if c.isDigit then
      match Text.splitOn ':' cs with
      | first :: places =>
        if first.all isNumeric && places.all isSixtieth then some (sixtieths (first :: places)) else none
      | [] => none
    else none
  | [] => none

/-- The integer that a scalar means, if it is written like one. -/
def integer? (cs : List Char) : Option (Except Fault Scalar) :=
  let (negative, rest) := Decimal.takeSign cs
  (natural? rest).map fun result => result.map fun n => .int (if negative then -(n : Int) else n)

/-! ### Numbers -/

/-- The power of ten behind the digits of a number: none, or a letter, a sign and digits. -/
def exponent? : List Char → Option Int
  | [] => some 0
  | e :: sign :: ds =>
    if (e = 'e' || e = 'E') && (sign = '-' || sign = '+') && !ds.isEmpty && ds.all Char.isDigit then
      some (if sign = '-' then -(Decimal.natOfDigits ds : Int) else Decimal.natOfDigits ds)
    else none
  | _ => none

/-- The number with digits before the point, and with digits and perhaps an exponent behind it. -/
def pointed? (whole rest : List Char) : Option Float :=
  let places := plainDigits (rest.takeWhile isNumeric)
  (exponent? (rest.dropWhile isNumeric)).map fun e =>
    Decimal.nearest (Decimal.natOfDigits (plainDigits whole ++ places)) (e - places.length)

/-- The number that places of sixty denote, the last one first.  Each is multiplied by its weight and
added, in this order. -/
def sixtyfold (sum : Float) (weight : Nat) : List Float → Except Fault Float
  | [] => .ok sum
  | x :: rest =>
    -- The weight grows without bound, and past the largest number there is no product.
    let w := Float.ofNat weight
    if w.isInf then .error .hugePlace else sixtyfold (sum + x * w) (weight * 60) rest

/-- The number that a scalar in places of sixty means, of which the last one has a point. -/
def sixty? (parts : List (List Char)) : Option (Except Fault Float) :=
  match parts, parts.reverse with
  | first :: _ :: _, last :: before =>
    let whole := last.takeWhile (· ≠ '.')
    match last.dropWhile (· ≠ '.') with
    | '.' :: places =>
      if first.all isNumeric && (first.head?.any Char.isDigit) && before.dropLast.all isSixtieth &&
          isSixtieth whole && places.all isNumeric then
        let number (digits : List Char) : Float := Decimal.nearest (Decimal.natOfDigits (plainDigits digits)) 0
        (pointed? whole places).map fun x => sixtyfold 0 1 (x :: before.map number)
      else none
    | _ => none
  | _, _ => none

/-- The number that a scalar without a sign means, if it is written like one.  `signed` says whether
there was a sign in front, which is not allowed in front of a point that no digit precedes. -/
def magnitude? (signed : Bool) (cs : List Char) : Option (Except Fault Float) :=
  match cs with
  | ['.', 'i', 'n', 'f'] | ['.', 'I', 'n', 'f'] | ['.', 'I', 'N', 'F'] =>
    some (.ok (Float.ofBits 0x7ff0000000000000))
  | ['.', 'n', 'a', 'n'] | ['.', 'N', 'a', 'N'] | ['.', 'N', 'A', 'N'] =>
    if signed then none else some (.ok (Float.ofBits 0x7ff8000000000000))
  | '.' :: rest =>
    if !signed && rest.head?.any Char.isDigit then (pointed? [] rest).map .ok else none
  | c :: _ =>
    if c.isDigit then
      match cs.dropWhile isNumeric with
      | '.' :: rest => (pointed? (cs.takeWhile isNumeric) rest).map .ok
      | ':' :: _ => sixty? (Text.splitOn ':' cs)
      | _ => none
    else none
  | [] => none

/-- The number that a scalar means, if it is written like one. -/
def number? (cs : List Char) : Option (Except Fault Scalar) :=
  let (negative, rest) := Decimal.takeSign cs
  (magnitude? (rest.length < cs.length) rest).map fun result =>
    result.map fun x => .float (if negative then -x else x)

/-! ### Dates and times -/

/-- Takes between `least` and `most` digits, as many as there are. -/
def takeDigits (least most : Nat) (cs : List Char) : Option (Nat × List Char) :=
  let ds := (cs.take most).takeWhile Char.isDigit
  if least ≤ ds.length then some (Decimal.natOfDigits ds, cs.drop ds.length) else none

/-- Takes a character. -/
def takeChar (c : Char) : List Char → Option (List Char)
  | d :: rest => if c = d then some rest else none
  | [] => none

/-- The millionths that digits behind a point denote; the digits behind the sixth are cut off. -/
def millionths (ds : List Char) : Nat :=
  Decimal.natOfDigits ((ds ++ List.replicate 6 '0').take 6)

/-- Takes the fraction of a second, which may be missing. -/
def takeFraction : List Char → Nat × List Char
  | '.' :: rest => (millionths (rest.takeWhile Char.isDigit), rest.dropWhile Char.isDigit)
  | rest => (0, rest)

/-- The offset from universal time, in seconds, that ends a time; it may be missing. -/
def offset? (cs : List Char) : Option (Option Int) :=
  if cs.isEmpty then some none
  else
    match cs.dropWhile isSpace with
    | ['Z'] => some (some 0)
    | sign :: rest => do
      guard (sign = '-' ∨ sign = '+')
      let (hours, rest) ← takeDigits 1 2 rest
      let minutes ←
        if rest.isEmpty then pure 0
        else do
          let (minutes, rest) ← takeDigits 2 2 (← takeChar ':' rest)
          guard rest.isEmpty
          pure minutes
      let seconds : Int := hours * 3600 + minutes * 60
      return some (if sign = '-' then -seconds else seconds)
    | [] => none

/-- Takes what stands between a date and a time: a letter, or blanks. -/
def takeTimeMark : List Char → Option (List Char)
  | 'T' :: rest | 't' :: rest => some rest
  | c :: rest => if isSpace c then some (rest.dropWhile isSpace) else none
  | [] => none

/-- The date or time that a scalar means, if it is written like one.  A date alone has two digits for the
month and for the day; in front of a time one is enough. -/
def moment? (cs : List Char) : Option Moment := do
  let (year, rest) ← takeDigits 4 4 cs
  let (month, rest) ← takeDigits 1 2 (← takeChar '-' rest)
  let (day, rest) ← takeDigits 1 2 (← takeChar '-' rest)
  let date : Date := ⟨year, month, day⟩
  if rest.isEmpty then
    -- Two digits each for the month and the day.
    guard (cs.length = 10)
    return .day date
  let (hour, rest) ← takeDigits 1 2 (← takeTimeMark rest)
  let (minute, rest) ← takeDigits 2 2 (← takeChar ':' rest)
  let (second, rest) ← takeDigits 2 2 (← takeChar ':' rest)
  let (micro, rest) := takeFraction rest
  return .time date ⟨hour, minute, second, micro⟩ (← offset? rest)

/-! ### Scalars -/

/-- What a plain scalar means. -/
def meaning (text : String) : Except Fault Scalar :=
  let cs := text.toList
  if nullWords.contains text then .ok .null
  else if trueWords.contains text then .ok (.bool true)
  else if falseWords.contains text then .ok (.bool false)
  else if reservedWords.contains text then .error (.malformed .reservedScalar)
  else
    match number? cs, integer? cs, moment? cs with
    | some result, _, _ => result
    | none, some result, _ => result
    | none, none, some m => (m.checked.map Scalar.moment).mapError .noMoment
    | none, none, none => .ok (.str text)

end BenchCompare.Yaml
