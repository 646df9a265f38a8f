import BenchCompare.Text.Basic
import BenchCompare.Yaml.Cursor
import BenchCompare.Yaml.Fault

/-!
# Quoted scalars

  A scalar between quotes may go over several lines, which are folded: blanks
  around a line end vanish, a single line end is a space, and of several the
  first one vanishes.  Between single quotes a quote is written twice.  Between
  double quotes a backslash starts an escape, and in front of a line end it
  takes the place of the space.
-/

namespace BenchCompare.Yaml

/-! ### Line ends -/

/-- The line ends at a place inside quotes, with the blanks around them left out.  `fresh` says whether a
line starts here: no document may start or end there. -/
def quotedBreaks (fresh : Bool) (c : Cursor) : Except Fault (List Char × Cursor) :=
  match _h : c.rest with
  | [] => .ok ([], c)
  | ch :: _ =>
    if fresh && isMarker c.rest then .error (.malformed .openQuote)
    else if isSpace ch then quotedBreaks false c.next
    else if isBreak ch then do
      let (breaks, after) ← quotedBreaks true c.next
      return (plainBreak ch :: breaks, after)
    else .ok ([], c)
termination_by c.rest.length
decreasing_by all_goals exact Cursor.length_next _h

/-- The blanks and line ends at a place inside quotes, folded. -/
def quotedGap (c : Cursor) : Except Fault (List Char × Cursor) :=
  let (blanks, after) := c.takeWhile isSpace
  match after.peek with
  | some ch =>
    if isBreak ch then do
      let (more, last) ← quotedBreaks true after.next
      return (folded (plainBreak ch) more, last)
    else .ok (blanks, after)
  | none => .error (.malformed .openQuote)

/-! ### Escapes -/

/-- The characters that stand for others behind a backslash. -/
def escapes : List (Char × Char) :=
  [('0', '\x00'), ('a', '\x07'), ('b', '\x08'), ('t', '\t'), ('\t', '\t'), ('n', '\n'), ('v', '\x0b'),
    ('f', '\x0c'), ('r', '\r'), ('e', '\x1b'), (' ', ' '), ('"', '"'), ('\\', '\\'), ('/', '/'),
    ('N', '\u0085'), ('_', '\u00a0'), ('L', '\u2028'), ('P', '\u2029')]

/-- How many hexadecimal digits of a code point follow a letter behind a backslash. -/
def codeWidth : Char → Option Nat
  | 'x' => some 2
  | 'u' => some 4
  | 'U' => some 8
  | _ => none

/-- The value of a hexadecimal digit. -/
def hexDigit? (c : Char) : Option Nat :=
  if c.isDigit then some (c.toNat - 48)
  else if 'a' ≤ c ∧ c ≤ 'f' then some (c.toNat - 87)
  else if 'A' ≤ c ∧ c ≤ 'F' then some (c.toNat - 55)
  else none

/-- The number that hexadecimal digits denote. -/
def hexNat? (cs : List Char) : Option Nat :=
  cs.foldl (fun n? c => do return (← n?) * 16 + (← hexDigit? c)) (some 0)

/-- The code point of an escape behind its backslash, and the place behind it. -/
def codeEscape? (c : Cursor) : Option (Nat × Cursor) := do
  let width ← codeWidth (← c.peek)
  let digits := c.next.rest.take width
  guard (digits.length = width)
  return (← hexNat? digits, c.next.advance width)

/-- The code point of a number. -/
def pointOfCode (code : Nat) : Except Fault CodePoint :=
  if 0x110000 ≤ code then .error (.noCharacter code) else .ok (.ofNat code)

/-- What an escape stands for, behind its backslash. -/
def escape (c : Cursor) : Except Fault (List CodePoint × Cursor) :=
  match c.peek with
  | none => .error (.malformed .badEscape)
  | some ch =>
    match escapes.lookup ch, codeEscape? c with
    | some meant, _ => .ok ([.char meant], c.next)
    | none, some (code, after) => do
      return ([← pointOfCode code], after)
    -- A backslash at the end of a line leaves out the line end, but not the empty lines behind it.
    | none, none =>
      if isBreak ch then do
        let (breaks, after) ← quotedBreaks true c.next
        return (breaks.map .char, after)
      else .error (.malformed .badEscape)

/-! ### Scalars -/

/-- The text from a place inside quotes up to the closing quote, and the place behind that.  `before` has
the text up to here in reverse order; `fuel` bounds the number of parts. -/
def quotedFrom (double : Bool) : Nat → List CodePoint → Cursor → Except Fault (List CodePoint × Cursor)
  | 0, _, _ => .error (.malformed .openQuote)
  | fuel + 1, before, c =>
    let continueWith (part : List CodePoint × Cursor) :=
      quotedFrom double fuel (part.1.reverse ++ before) part.2
    match c.peek with
    | none => .error (.malformed .openQuote)
    | some ch =>
      if double && ch = '\\' then do continueWith (← escape c.next)
      else if ch = (if double then '"' else '\'') then
        -- Between single quotes a quote that is doubled stands for one.
        if !double && c.next.peek = some '\'' then continueWith ([.char '\''], c.next.next)
        else .ok (before.reverse, c.next)
      else if isSpace ch || isBreak ch then do
        let (gap, after) ← quotedGap c
        continueWith (gap.map .char, after)
      else continueWith ([.char ch], c.next)

/-- The text of the scalar whose opening quote stands here, and the place behind it.  `size` is no less than
the number of characters that are left. -/
def quotedScalar (size : Nat) (double : Bool) (c : Cursor) : Except Fault (Text × Cursor) := do
  let (text, after) ← quotedFrom double size [] c.next
  return (⟨text⟩, after)

end BenchCompare.Yaml
