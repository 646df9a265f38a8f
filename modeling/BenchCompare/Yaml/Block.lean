import BenchCompare.Yaml.Cursor
import BenchCompare.Yaml.Fault

/-!
# Block scalars

  A block scalar starts with a line that says how to read the lines that
  follow.  Those that are indented as deep as the first one are its text, line
  by line or folded.  The line end behind the last one belongs to the text
  unless the first line says to *strip* it, and empty lines at the end do only
  if it says to *keep* them.
-/

namespace BenchCompare.Yaml

/-! ### The first line -/

/-- What becomes of the line ends at the end. -/
inductive Chomping
  /-- One is kept. -/
  | clip
  /-- None is kept. -/
  | strip
  /-- All are kept. -/
  | keep
  deriving DecidableEq, Repr

/-- How to read a block scalar. -/
structure BlockHeader where
  /-- What becomes of the line ends at the end. -/
  chomping : Chomping
  /-- The depth of the lines, relative to the lines around the scalar, if it is given. -/
  depth : Option Nat

/-- The chomping that a character asks for. -/
def chomping? : Option Char → Option Chomping
  | some '+' => some .keep
  | some '-' => some .strip
  | _ => none

/-- The depth that a character gives; a zero is refused. -/
def depth? (ch : Option Char) : Except Fault (Option Nat) :=
  match ch with
  | some '0' => .error (.malformed .badHeader)
  | some ch => .ok (if ch.isDigit then some (ch.toNat - 48) else none)
  | none => .ok none

/-- The first line, behind its indicator: a chomping and a depth in any order, and a comment. -/
def blockHeader (c : Cursor) : Except Fault (BlockHeader × Cursor) := do
  let (header, after) ←
    match chomping? c.peek with
    | some chomping => do
      match ← depth? c.next.peek with
      | some depth => pure (BlockHeader.mk chomping (some depth), c.next.next)
      | none => pure (BlockHeader.mk chomping none, c.next)
    | none => do
      match ← depth? c.peek with
      | some depth =>
        match chomping? c.next.peek with
        | some chomping => pure (BlockHeader.mk chomping (some depth), c.next.next)
        | none => pure (BlockHeader.mk .clip (some depth), c.next)
      | none => pure (BlockHeader.mk .clip none, c)
  if after.peek.any fun ch => ch ≠ ' ' ∧ !isBreak ch then throw (.malformed .badHeader)
  let (_, comment) := after.takeWhile (· = ' ')
  let (_, last) :=
    if comment.peek = some '#' then comment.takeWhile fun ch => !isBreak ch else ([], comment)
  if last.peek.any fun ch => !isBreak ch then throw (.malformed .badHeader)
  return (header, last.next)

/-! ### Empty lines -/

/-- The line ends at a place, with the spaces around them left out: those up to column `indent`, or all
of them if there is none.  Also the deepest column that the spaces reach, and the place behind them. -/
def blockBreaks (indent : Option Nat) (deepest : Nat) (c : Cursor) : List Char × Nat × Cursor :=
  match _h : c.rest with
  | [] => ([], deepest, c)
  | ch :: _ =>
    if ch = ' ' ∧ indent.all (c.column < ·) then
      blockBreaks indent (max deepest c.next.column) c.next
    else if isBreak ch then
      let (breaks, last) := blockBreaks indent deepest c.next
      (plainBreak ch :: breaks, last)
    else ([], deepest, c)
termination_by c.rest.length
decreasing_by all_goals exact Cursor.length_next _h

/-! ### Lines -/

/-- Whether a line starts with a blank, so that the line ends around it are not folded. -/
def startsBlank (c : Cursor) : Bool := c.peek.any isSpace

/-- The lines of a scalar from a place on.  `breaks` are the line ends in front of it, `ended` is the line
end of the line before, and `before` has the text up to there in reverse order.  The result has the text
without what stands at its end, in reverse order, and then the last line end and the empty lines behind it.
`fuel` bounds the number of lines. -/
def blockLines (fold : Bool) (indent : Nat) :
    Nat → List Char → List Char → List Char → Cursor → List Char × List Char × List Char × Cursor
  | 0, breaks, ended, before, c => (before, ended, breaks, c)
  | fuel + 1, breaks, ended, before, c =>
    if c.column = indent ∧ c.peek.isSome then
      let (line, after) := c.takeWhile fun ch => !isBreak ch
      let lineEnd := (after.peek.map plainBreak).toList
      let (more, _, next) := blockBreaks (some indent) 0 after.next
      let text := line.reverse ++ (breaks.reverse ++ before)
      if next.column = indent ∧ next.peek.isSome then
        -- A single line end between two lines of words becomes a space; empty lines take its place.
        let kept :=
          if fold ∧ lineEnd = ['\n'] ∧ !startsBlank c ∧ !startsBlank next then
            if more.isEmpty then [' '] else []
          else lineEnd
        blockLines fold indent fuel more [] (kept ++ text) next
      else (text, lineEnd, more, next)
    else (before, ended, breaks, c)

/-- The text of the block scalar whose indicator stands here, and the place behind it.  `around` is the
least depth of its lines, and `size` is no less than the number of characters that are left. -/
def blockScalar (size : Nat) (fold : Bool) (around : Nat) (c : Cursor) : Except Fault (String × Cursor) := do
  let (header, first) ← blockHeader c.next
  let least := max around 1
  let (breaks, indent, start) :=
    match header.depth with
    | some depth =>
      let indent := least + depth - 1
      let (breaks, _, start) := blockBreaks (some indent) 0 first
      (breaks, indent, start)
    | none =>
      -- Without a depth the lines are as deep as the deepest blank in front of the first word.
      let (breaks, deepest, start) := blockBreaks none 0 first
      (breaks, max least deepest, start)
  let (text, lineEnd, more, after) := blockLines fold indent (size + 1) breaks [] [] start
  let tail :=
    match header.chomping with
    | .strip => []
    | .clip => lineEnd
    | .keep => lineEnd ++ more
  return (String.ofList (text.reverse ++ tail), after)

end BenchCompare.Yaml
