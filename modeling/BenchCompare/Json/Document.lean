import BenchCompare.Json.Lexeme

/-!
# Reading a JSON text

A text is read lexeme by lexeme.  What has been read is kept as a stack of containers that are still
open, and what may come next as an `Awaited`.  The first lexeme that may not come is the fault that is
reported.
-/

namespace BenchCompare.Json

/-! ## Faults -/

/-- Why a text is no JSON document. -/
inductive Cause
  /-- A value should stand here. -/
  | noValue
  /-- The name of a field should stand here. -/
  | noName
  /-- A colon should stand here. -/
  | noColon
  /-- A comma or the end of the container should stand here. -/
  | noComma
  /-- The text goes on behind the value. -/
  | extraData
  /-- The text starts with a byte order mark. -/
  | byteOrderMark
  /-- A string has a fault. -/
  | badString (fault : StringFault)
  deriving DecidableEq, Repr

/-- The wording of a cause. -/
def Cause.message : Cause → String
  | noValue => "Expecting value"
  | noName => "Expecting property name enclosed in double quotes"
  | noColon => "Expecting ':' delimiter"
  | noComma => "Expecting ',' delimiter"
  | extraData => "Extra data"
  | byteOrderMark => "Unexpected UTF-8 BOM (decode using utf-8-sig)"
  | badString .unterminated => "Unterminated string starting at"
  | badString .controlCharacter => "Invalid control character at"
  | badString .unknownEscape => "Invalid \\escape"
  | badString .brokenCodePoint => "Invalid \\uXXXX escape"

/-- What goes wrong when a text is read. -/
inductive Fault
  /-- It breaks the grammar at an index. -/
  | malformed (cause : Cause) (index : Nat)
  /-- It holds an integer with too many digits to be read. -/
  | longInteger (digits : Nat)
  /-- It holds containers, the innermost of this kind, inside one another to a depth that is not read. -/
  | tooDeep (container : String)
  deriving DecidableEq, Repr

/-- The line and the column of an index, both counted from one. -/
def lineColumn (cs : List Char) (index : Nat) : Nat × Nat :=
  let before := cs.take index
  (before.count '\n' + 1, (before.reverse.takeWhile (· ≠ '\n')).length + 1)

/-- The wording of a break of the grammar in a text. -/
def malformedMessage (cs : List Char) (cause : Cause) (index : Nat) : String :=
  let (line, column) := lineColumn cs index
  s!"{cause.message}: line {line} column {column} (char {index})"

/-- The wording of a text that is nested too deep. -/
def tooDeepMessage (container : String) : String :=
  s!"maximum recursion depth exceeded while decoding a JSON {container} from a unicode string"

/-! ## The reader -/

/-- A container that is still open. -/
inductive Frame
  /-- An array, with its items in reverse order. -/
  | array (items : List Json)
  /-- An object, with the fields read, and the name of the field whose value comes next. -/
  | object (fields : List (Text × Json)) (name : Text)

/-- What may come next. -/
inductive Awaited
  /-- A value. -/
  | value
  /-- The first item of an array, or its end. -/
  | firstItem
  /-- The first name of an object, or its end. -/
  | firstName
  /-- A name of an object with these fields. -/
  | name (fields : List (Text × Json))
  /-- The colon behind a name. -/
  | colon
  /-- What may follow a value. -/
  | afterValue (v : Json)

/-- The fault of a lexeme that is no value. -/
def valueFault (l : Lexeme) (index : Nat) : Fault :=
  match l with
  | .brokenString fault at' => .malformed (.badString fault) at'
  | .longInteger n => .longInteger n
  | _ => .malformed .noValue index

/-- The fault of a lexeme that is no name. -/
def nameFault (l : Lexeme) (index : Nat) : Fault :=
  match l with
  | .brokenString fault at' => .malformed (.badString fault) at'
  | _ => .malformed .noName index

/-- Opens a container, unless as many are open as may be. -/
def openContainer (depth : Nat) (container : String) (stack : List Frame) (opened : Frame × Awaited) :
    Except Fault (List Frame × Awaited) :=
  if stack.length < depth then .ok (opened.1 :: stack, opened.2) else .error (.tooDeep container)

/-- Reads a lexeme where a value may stand. -/
def startValue (depth : Nat) (l : Lexeme) (index : Nat) (stack : List Frame) :
    Except Fault (List Frame × Awaited) :=
  match l with
  | .openArray => openContainer depth "array" stack (.array [], .firstItem)
  | .openObject => openContainer depth "object" stack (.object [] "", .firstName)
  | .string s => .ok (stack, .afterValue (.str s))
  | .scalar v => .ok (stack, .afterValue v)
  | _ => .error (valueFault l index)

/-- Reads a lexeme where a name may stand. -/
def startField (l : Lexeme) (index : Nat) (fields : List (Text × Json)) (stack : List Frame) :
    Except Fault (List Frame × Awaited) :=
  match l with
  | .string s => .ok (.object fields s :: stack, .colon)
  | _ => .error (nameFault l index)

/-- Reads one lexeme. -/
def step (depth : Nat) (l : Lexeme) (index : Nat) : List Frame × Awaited → Except Fault (List Frame × Awaited)
  | (stack, .value) => startValue depth l index stack
  | (.array items :: stack, .firstItem) =>
    match l with
    | .closeArray => .ok (stack, .afterValue (.arr items.reverse))
    | _ => startValue depth l index (.array items :: stack)
  | (.object fields _ :: stack, .firstName) =>
    match l with
    | .closeObject => .ok (stack, .afterValue (.obj fields))
    | _ => startField l index fields stack
  | (stack, .name fields) => startField l index fields stack
  | (stack, .colon) =>
    match l with
    | .colon => .ok (stack, .value)
    | _ => .error (.malformed .noColon index)
  | (.array items :: stack, .afterValue v) =>
    match l with
    | .closeArray => .ok (stack, .afterValue (.arr (v :: items).reverse))
    | .comma => .ok (.array (v :: items) :: stack, .value)
    | _ => .error (.malformed .noComma index)
  | (.object fields name :: stack, .afterValue v) =>
    match l with
    | .closeObject => .ok (stack, .afterValue (.obj (insertField name v fields)))
    | .comma => .ok (stack, .name (insertField name v fields))
    | _ => .error (.malformed .noComma index)
  -- No other states are reached: items and names are awaited in open containers only.
  | (_, _) => .error (.malformed .noValue index)

/-- Reads lexemes up to the end of the text. -/
def readFrom (depth : Nat) : List Frame × Awaited → List (Lexeme × Nat) → Except Fault Json
  | ([], .afterValue v), (l, index) :: _ =>
    match l with
    | .endOfText => .ok v
    | _ => .error (.malformed .extraData index)
  | state, (l, index) :: rest =>
    match step depth l index state with
    | .ok state' => readFrom depth state' rest
    | .error fault => .error fault
  | _, [] => .error (.malformed .noValue 0)

/-- How deep containers may lie inside one another, as a rule. -/
def usualDepth : Nat := 980

/-- The value of a JSON text, whose containers may lie inside one another to a depth. -/
def parse (depth : Nat) (cs : List Char) : Except Fault Json :=
  if cs.head? = some '\ufeff' then .error (.malformed .byteOrderMark 0)
  else readFrom depth ([], .value) (lexemes cs)

end BenchCompare.Json
