/-!
# Places in a YAML text

  A cursor is what is left of a text together with its place: YAML gives
  meaning to lines and columns.  The line ends of the text are unified before,
  so that none of them takes two characters.
-/

namespace BenchCompare.Yaml

/-! ### Characters -/

/-- Whether a character ends a line. -/
def isBreak (c : Char) : Bool := c = '\n' || c = '\u0085' || c = '\u2028' || c = '\u2029'

/-- What a line end stands for in the text of a scalar. -/
def plainBreak (c : Char) : Char := if c = '\u0085' then '\n' else c

/-- Whether a character separates words within a line. -/
def isSpace (c : Char) : Bool := c = ' ' || c = '\t'

/-- Whether a place separates words: the end of the text does. -/
def isGap (c : Option Char) : Bool := c.all fun c => isSpace c || isBreak c

/-- The code points that a text may hold, as inclusive ranges. -/
def allowedRanges : List (Nat × Nat) :=
  [(0x09, 0x0a), (0x0d, 0x0d), (0x20, 0x7e), (0x85, 0x85), (0xa0, 0xd7ff), (0xe000, 0xfffd),
    (0x10000, 0x10ffff)]

/-- Whether a text may hold a character. -/
def isAllowed (c : Char) : Bool :=
  allowedRanges.any fun (low, high) => low ≤ c.toNat && c.toNat ≤ high

/-- The mark of byte order, which takes no column. -/
def byteOrderMark : Char := '\ufeff'

/-- Whether a document starts or ends at the start of a line. -/
def isMarker : List Char → Bool
  | '-' :: '-' :: '-' :: rest => isGap rest.head?
  | '.' :: '.' :: '.' :: rest => isGap rest.head?
  | _ => false

/-- A line end and those behind it, inside a scalar that folds lines: a single one is a space. -/
def folded (first : Char) (more : List Char) : List Char :=
  if first ≠ '\n' then first :: more else if more.isEmpty then [' '] else more

/-! ### Cursors -/

/-- A place in a text. -/
structure Cursor where
  /-- What is left of the text. -/
  rest : List Char
  /-- The number of characters before. -/
  index : Nat
  /-- The number of lines before. -/
  line : Nat
  /-- The number of columns before, in the line. -/
  column : Nat

namespace Cursor

/-- The start of a text. -/
def start (text : List Char) : Cursor := ⟨text, 0, 0, 0⟩

/-- The character here. -/
def peek (c : Cursor) : Option Char := c.rest.head?

/-- The place behind a character. -/
def past (c : Cursor) (ch : Char) (rest : List Char) : Cursor :=
  if isBreak ch then ⟨rest, c.index + 1, c.line + 1, 0⟩
  else ⟨rest, c.index + 1, c.line, if ch = byteOrderMark then c.column else c.column + 1⟩

/-- The next place, if the text does not end here. -/
def next (c : Cursor) : Cursor :=
  match c.rest with
  | [] => c
  | ch :: rest => c.past ch rest

theorem rest_next (c : Cursor) : c.next.rest = c.rest.tail := by
  cases h : c.rest with
  | nil => simp [next, h]
  | cons ch rest => simp only [next, h, past]; split <;> rfl

theorem length_next {c : Cursor} {ch : Char} {rest : List Char} (h : c.rest = ch :: rest) :
    c.next.rest.length < c.rest.length := by
  simp [rest_next, h]

/-- The place a number of characters on. -/
def advance (c : Cursor) : Nat → Cursor
  | 0 => c
  | n + 1 => c.next.advance n

/-- The characters from here on that satisfy a condition, and the place behind them. -/
def takeWhile (p : Char → Bool) (c : Cursor) : List Char × Cursor :=
  match _h : c.rest with
  | [] => ([], c)
  | ch :: _ =>
    if p ch then
      let (taken, after) := c.next.takeWhile p
      (ch :: taken, after)
    else ([], c)
termination_by c.rest.length
decreasing_by exact length_next _h

end Cursor

end BenchCompare.Yaml
