import BenchCompare.Text.Quoted

/-!
# Reading UTF-8

  A character is a lead byte and up to three continuation bytes.  The lead byte
  says how many follow and which values the first of them may have, so that no
  character is written in more bytes than it needs, no half of a pair is a
  character, and nothing lies beyond the last code point.
-/

namespace BenchCompare.Text

/-- Why bytes are no UTF-8. -/
inductive Utf8Cause
  /-- A byte starts no character. -/
  | invalidStart
  /-- A byte does not continue a character. -/
  | invalidContinuation
  /-- The bytes end inside a character. -/
  | unexpectedEnd
  deriving DecidableEq, Repr

/-- A place where bytes are no UTF-8. -/
structure Utf8Fault where
  /-- The index of the lead byte. -/
  index : Nat
  /-- The number of bytes from there on that belong together. -/
  length : Nat
  /-- The lead byte. -/
  lead : UInt8
  /-- What is wrong. -/
  cause : Utf8Cause
  deriving DecidableEq, Repr

/-- The wording of a cause. -/
def Utf8Cause.message : Utf8Cause → String
  | invalidStart => "invalid start byte"
  | invalidContinuation => "invalid continuation byte"
  | unexpectedEnd => "unexpected end of data"

/-- The wording of a fault. -/
def Utf8Fault.message (f : Utf8Fault) : String :=
  let place :=
    if f.length = 1 then
      s!"byte 0x{String.ofList (hex 2 f.lead.toNat)} in position {f.index}"
    else s!"bytes in position {f.index}-{f.index + f.length - 1}"
  s!"'utf-8' codec can't decode {place}: {f.cause.message}"

/-! ### Characters -/

/-- What a lead byte announces: the bits that it holds of the code point, and the inclusive range of each
byte that must follow. -/
def announced (lead : Nat) : Option (Nat × List (Nat × Nat)) :=
  let any := (0x80, 0xbf)
  if lead < 0x80 then some (lead, [])
  else if lead < 0xc2 then none
  else if lead < 0xe0 then some (lead - 0xc0, [any])
  else if lead = 0xe0 then some (lead - 0xe0, [(0xa0, 0xbf), any])
  else if lead = 0xed then some (lead - 0xe0, [(0x80, 0x9f), any])
  else if lead < 0xf0 then some (lead - 0xe0, [any, any])
  else if lead = 0xf0 then some (lead - 0xf0, [(0x90, 0xbf), any, any])
  else if lead < 0xf4 then some (lead - 0xf0, [any, any, any])
  else if lead = 0xf4 then some (lead - 0xf0, [(0x80, 0x8f), any, any])
  else none

/-- Reads continuation bytes onto the bits read so far.  `taken` counts the bytes of the character up to
here, which are those that belong together if the next one is wrong. -/
def continued (bits taken : Nat) : List (Nat × Nat) → List UInt8 → Except (Nat × Utf8Cause) Nat
  | [], _ => .ok bits
  | _ :: _, [] => .error (taken, .unexpectedEnd)
  | (low, high) :: ranges, b :: rest =>
    if low ≤ b.toNat ∧ b.toNat ≤ high then
      continued (bits * 64 + (b.toNat - 0x80)) (taken + 1) ranges rest
    else .error (taken, .invalidContinuation)

/-- The characters of bytes.  `index` is the index of the first byte, and `before` has the characters
before it in reverse order. -/
def decodeFrom (index : Nat) (before : List Char) : List UInt8 → Except Utf8Fault (List Char)
  | [] => .ok before.reverse
  | lead :: rest =>
    match announced lead.toNat with
    | none => .error ⟨index, 1, lead, .invalidStart⟩
    | some (bits, ranges) =>
      match continued bits 1 ranges rest with
      | .ok code =>
        decodeFrom (index + 1 + ranges.length) (Char.ofNat code :: before) (rest.drop ranges.length)
      -- The bytes before the wrong one belong together; the wrong one does not.
      | .error (length, cause) => .error ⟨index, length, lead, cause⟩
termination_by bytes => bytes.length

/-- The characters that bytes stand for. -/
def decode (bytes : ByteArray) : Except Utf8Fault (List Char) := decodeFrom 0 [] bytes.toList

end BenchCompare.Text
