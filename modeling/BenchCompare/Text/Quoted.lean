import BenchCompare.Text.Basic
import BenchCompare.Text.Printable

/-!
# Quoted text

A message shows a text between quotes, so that its ends and its odd characters can be seen.  The quotes
are single ones unless the text holds single quotes and no double ones.  Inside, the quote and the
backslash follow a backslash, and a character that is not printable is written as an escape.
-/

namespace BenchCompare.Text

/-- The last `width` lower-case hexadecimal digits of a number, with leading zeros. -/
def hex (width n : Nat) : List Char := (Nat.toDigits 16 n).leftpad width '0'

/-- The quote that a text is shown between. -/
def quoteFor (cs : List CodePoint) : Char :=
  if cs.contains '\'' && !cs.contains '"' then '"' else '\''

/-- A character inside quotes. -/
def quoteChar (quote c : Char) : List Char :=
  if c = quote ∨ c = '\\' then ['\\', c]
  else if c = '\t' then ['\\', 't']
  else if c = '\n' then ['\\', 'n']
  else if c = '\r' then ['\\', 'r']
  else if isPrintable c then [c]
  else if c.toNat ≤ 0xff then '\\' :: 'x' :: hex 2 c.toNat
  else if c.toNat ≤ 0xffff then '\\' :: 'u' :: hex 4 c.toNat
  else '\\' :: 'U' :: hex 8 c.toNat

/-- A code point inside quotes. -/
def quotePoint (quote : Char) : CodePoint → List Char
  | .char c => quoteChar quote c
  | .half n => '\\' :: 'u' :: hex 4 (CodePoint.half n).toNat

/-- A text between quotes. -/
def quoted (t : Text) : String :=
  let quote := quoteFor t.toList
  String.ofList (quote :: t.toList.flatMap (quotePoint quote) ++ [quote])

end BenchCompare.Text
