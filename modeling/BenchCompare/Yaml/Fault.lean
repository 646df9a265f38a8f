import BenchCompare.Decimal.Numeral
import BenchCompare.Value.Moment

/-!
# Faults of YAML texts

  A text may be *malformed*, or it may be well formed and hold a scalar that
  stands for nothing: a date that the calendar does not have, a number that is
  too long to be read.
-/

namespace BenchCompare.Yaml

/-- Why a text is malformed. -/
inductive Cause
  /-- It holds a character that no text may hold. -/
  | forbiddenCharacter
  /-- A character starts no token. -/
  | strayCharacter
  /-- A line that must be the key of a mapping has no colon. -/
  | noColon
  /-- An item of a list stands where none may start. -/
  | strayItem
  /-- A key stands where none may start. -/
  | strayKey
  /-- A value stands where none may start. -/
  | strayValue
  /-- A quoted scalar does not end. -/
  | openQuote
  /-- A backslash starts no escape. -/
  | badEscape
  /-- The first line of a block scalar says something else than how to read it. -/
  | badHeader
  /-- A token stands where another one should. -/
  | strayToken
  /-- The text ends too early. -/
  | unfinished
  /-- There is a second document. -/
  | secondDocument
  /-- The key of a mapping is a list or a mapping. -/
  | compoundKey
  /-- A scalar is reserved and stands for no value. -/
  | reservedScalar
  /-- Tags, anchors, aliases and directives are not read. -/
  | unsupported
  deriving DecidableEq, Repr

/-- The wording of a cause. -/
def Cause.message : Cause → String
  | forbiddenCharacter => "special characters are not allowed"
  | strayCharacter => "found a character that cannot start any token"
  | noColon => "could not find the colon behind a key"
  | strayItem => "sequence entries are not allowed here"
  | strayKey => "mapping keys are not allowed here"
  | strayValue => "mapping values are not allowed here"
  | openQuote => "found no end of a quoted scalar"
  | badEscape => "found an unknown escape in a quoted scalar"
  | badHeader => "found an unknown indicator of a block scalar"
  | strayToken => "found an unexpected token"
  | unfinished => "found an unexpected end of the text"
  | secondDocument => "expected a single document"
  | compoundKey => "found a key that is no scalar"
  | reservedScalar => "found a scalar that stands for no value"
  | unsupported => "found a tag, an anchor, an alias or a directive"

/-- Why a text stands for no value. -/
inductive Fault
  /-- It is malformed. -/
  | malformed (cause : Cause)
  /-- A decimal integer has too many digits. -/
  | longInteger (digits : Nat)
  /-- An integer has no digits behind the sign of its base. -/
  | noDigits (base : Nat)
  /-- A number has so many places of sixty that their weights are beyond all binary64 numbers. -/
  | hugePlace
  /-- There is no such date or time. -/
  | noMoment (fault : MomentFault)
  /-- An escape names a code point that Unicode does not have. -/
  | noCharacter (code : Nat)
  deriving DecidableEq, Repr

/-- The wording of a fault. -/
def Fault.message : Fault → String
  | malformed cause => cause.message
  | longInteger digits => Decimal.tooLongMessage digits
  | noDigits base => s!"invalid literal for int() with base {base}: ''"
  | hugePlace => "int too large to convert to float"
  | noMoment fault => fault.message
  | noCharacter code =>
    if code < 0x80000000 then "chr() arg not in range(0x110000)"
    else "Python int too large to convert to C int"

end BenchCompare.Yaml
