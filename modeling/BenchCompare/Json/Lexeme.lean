import BenchCompare.Json.Basic
import BenchCompare.Decimal.Numeral
import BenchCompare.Text.Halves

/-!
# The lexemes of a JSON text

A text is cut into lexemes, each with the index of its first character.  The list ends with the end of
the text, or earlier with the first place that is no lexeme: no reader can get past it.
-/

namespace BenchCompare.Json

/-! ## Strings -/

/-- What can be wrong inside a string. -/
inductive StringFault
  /-- The text ends inside the string. -/
  | unterminated
  /-- A control character stands in it. -/
  | controlCharacter
  /-- A backslash is followed by a character that makes no escape. -/
  | unknownEscape
  /-- An escape by code point lacks its four hexadecimal digits. -/
  | brokenCodePoint
  deriving DecidableEq, Repr

/-- The value of a hexadecimal digit. -/
def hexValue? (c : Char) : Option Nat :=
  if c.isDigit then some (c.toNat - '0'.toNat)
  else if 'a' ≤ c ∧ c ≤ 'f' then some (c.toNat - 'a'.toNat + 10)
  else if 'A' ≤ c ∧ c ≤ 'F' then some (c.toNat - 'A'.toNat + 10)
  else none

/-- The number that four hexadecimal digits denote. -/
def hexQuad? (a b c d : Char) : Option Nat := do
  return ((← hexValue? a) * 16 + (← hexValue? b)) * 256 + ((← hexValue? c) * 16 + (← hexValue? d))

/-- The character that a letter after a backslash stands for. -/
def escapedChar? : Char → Option Char
  | '"' => some '"'
  | '\\' => some '\\'
  | '/' => some '/'
  | 'b' => some '\x08'
  | 'f' => some '\x0c'
  | 'n' => some '\n'
  | 'r' => some '\r'
  | 't' => some '\t'
  | _ => none

/-- A string that was read: its code points, and the text behind it with its index. -/
structure StringRest where
  /-- The code points of the string. -/
  points : List CodePoint
  /-- The text behind the closing quote. -/
  rest : List Char
  /-- The index of that text. -/
  index : Nat

/-- The string with one more code point in front. -/
def StringRest.cons (c : CodePoint) (s : StringRest) : StringRest := { s with points := c :: s.points }

/-- What stands behind the escape of a first half. -/
inductive Behind
  /-- No escape by code point that is closed by a further character. -/
  | other
  /-- An escape by code point without its four hexadecimal digits. -/
  | broken
  /-- An escape by code point. -/
  | codePoint (n : Nat)

/-- What a text behind the escape of a first half starts with. -/
def Behind.ofText : List Char → Behind
  | '\\' :: 'u' :: a :: b :: c :: d :: _ :: _ => (hexQuad? a b c d).elim .broken .codePoint
  | _ => .other

/-- The code point of an escape, and how many characters of the text behind it also belong to it: the six
of a second half, or none.  There is no code point if that second escape is broken. -/
def escapedPoint? (n : Nat) (behind : List Char) : Option (CodePoint × Nat) :=
  if Text.isHighHalf n then
    match Behind.ofText behind with
    | .other => some (.ofNat n, 0)
    | .broken => none
    | .codePoint n' => some (if Text.isLowHalf n' then (.char (Text.pairedChar n n'), 6) else (.ofNat n, 0))
  else some (.ofNat n, 0)

/-- Reads a string behind its opening quote.  `start` is the index of that quote and `index` the index of
the text.  A fault comes with the index that it is reported at. -/
def readString (start index : Nat) : List Char → Except (StringFault × Nat) StringRest
  | [] => .error (.unterminated, start)
  | '"' :: rest => .ok ⟨[], rest, index + 1⟩
  -- An escape by code point must be closed by a further character, if only by the quote.
  | '\\' :: 'u' :: a :: b :: c :: d :: e :: rest =>
    match hexQuad? a b c d with
    | none => .error (.brokenCodePoint, index + 1)
    | some n =>
      match escapedPoint? n (e :: rest) with
      | none => .error (.brokenCodePoint, index + 7)
      | some (c', more) =>
        (readString start (index + 6 + more) ((e :: rest).drop more)).map (.cons c')
  | ['\\'] => .error (.unterminated, start)
  | '\\' :: 'u' :: _ => .error (.brokenCodePoint, index + 1)
  | '\\' :: c :: rest =>
    match escapedChar? c with
    | some c' => (readString start (index + 2) rest).map (.cons c')
    | none => .error (.unknownEscape, index)
  | c :: rest =>
    if c.toNat < 0x20 then .error (.controlCharacter, index)
    else (readString start (index + 1) rest).map (.cons c)
termination_by cs => cs.length

/-! ## Numbers -/

/-- The longest numeral that a text starts with: a sign, a zero or digits without a leading zero, then
places behind a point and an exponent, each of them only if it has digits. -/
def takeNumeral (cs : List Char) : Option (List Char) :=
  let (sign, cs) := match cs with
    | '-' :: rest => (['-'], rest)
    | rest => ([], rest)
  let whole := match cs with
    | '0' :: _ => ['0']
    | rest => rest.takeWhile Char.isDigit
  let cs := cs.drop whole.length
  let places := match cs with
    | '.' :: rest => let ds := rest.takeWhile Char.isDigit; if ds.isEmpty then [] else '.' :: ds
    | _ => []
  let cs := cs.drop places.length
  let exponent := match cs with
    | letter :: rest =>
      if letter = 'e' ∨ letter = 'E' then
        let (mark, rest) := match rest with
          | '+' :: rest => (['+'], rest)
          | '-' :: rest => (['-'], rest)
          | rest => ([], rest)
        let ds := rest.takeWhile Char.isDigit
        if ds.isEmpty then [] else letter :: mark ++ ds
      else []
    | [] => []
  if whole.isEmpty then none else some (sign ++ whole ++ places ++ exponent)

/-! ## Lexemes -/

/-- A lexeme, or what stands where a lexeme should. -/
inductive Lexeme
  /-- An opening square bracket. -/
  | openArray
  /-- A closing square bracket. -/
  | closeArray
  /-- An opening brace. -/
  | openObject
  /-- A closing brace. -/
  | closeObject
  /-- A comma. -/
  | comma
  /-- A colon. -/
  | colon
  /-- A string. -/
  | string (t : Text)
  /-- A number or a literal word. -/
  | scalar (v : Json)
  /-- An integer with too many digits to be read. -/
  | longInteger (digits : Nat)
  /-- A string with a fault, and the index that it is reported at. -/
  | brokenString (fault : StringFault) (index : Nat)
  /-- A character that starts no lexeme. -/
  | unknown
  /-- The end of the text. -/
  | endOfText

/-- Whether a character may stand between lexemes. -/
def isSpace (c : Char) : Bool := c = ' ' || c = '\t' || c = '\n' || c = '\r'

/-- The words with a value of their own. -/
def words : List (String × Json) :=
  [("null", .null), ("true", .bool true), ("false", .bool false),
    ("NaN", .float (Float.ofBits 0x7ff8000000000000)),
    ("Infinity", .float (Float.ofBits 0x7ff0000000000000)),
    ("-Infinity", .float (Float.ofBits 0xfff0000000000000))]

/-- The word that a text starts with, with its length and value. -/
def takeWord? (cs : List Char) : Option (Nat × Json) :=
  (words.find? fun (w, _) => w.toList.isPrefixOf cs).map fun (w, v) => (w.length, v)

/-- The value of a numeral. -/
def numeralLexeme (numeral : List Char) : Lexeme :=
  match Decimal.readPlainInteger numeral with
  | .ok n => .scalar (.int n)
  | .error (.tooLong n) => .longInteger n
  | .error .malformed =>
    match Decimal.readNumber (String.ofList numeral) with
    | some x => .scalar (.float x)
    | none => .unknown

/-- The lexeme that a text starts with, and the rest of the text with its index.  Nothing follows what is
no lexeme. -/
def takeLexeme (index : Nat) (c : Char) (rest : List Char) : Lexeme × Option (Nat × List Char) :=
  let single (l : Lexeme) := (l, some (index + 1, rest))
  match c with
  | '[' => single .openArray
  | ']' => single .closeArray
  | '{' => single .openObject
  | '}' => single .closeObject
  | ',' => single .comma
  | ':' => single .colon
  | '"' =>
    match readString index (index + 1) rest with
    | .ok s => (.string ⟨s.points⟩, some (s.index, s.rest))
    | .error (fault, at') => (.brokenString fault at', none)
  | _ =>
    match takeWord? (c :: rest) with
    | some (n, v) => (.scalar v, some (index + n, (c :: rest).drop n))
    | none =>
      match takeNumeral (c :: rest) with
      | some numeral =>
        (numeralLexeme numeral, some (index + numeral.length, (c :: rest).drop numeral.length))
      | none => (.unknown, none)

/-- The lexemes of a text, each with its index.  Every lexeme takes at least one character, so `fuel`
lexemes are enough for a text of fewer characters. -/
def lexemesFrom (fuel index : Nat) (cs : List Char) : List (Lexeme × Nat) :=
  match fuel with
  | 0 => []
  | fuel + 1 =>
    let spaces := (cs.takeWhile isSpace).length
    let index := index + spaces
    match cs.drop spaces with
    | [] => [(.endOfText, index)]
    | c :: rest =>
      match takeLexeme index c rest with
      | (l, some (next, cs')) => (l, index) :: lexemesFrom fuel next cs'
      | (l, none) => [(l, index)]

/-- The lexemes of a text, each with its index. -/
def lexemes (cs : List Char) : List (Lexeme × Nat) := lexemesFrom (cs.length + 1) 0 cs

end BenchCompare.Json
