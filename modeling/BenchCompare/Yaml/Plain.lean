import BenchCompare.Yaml.Cursor

/-!
# Plain scalars

  A plain scalar ends in front of a comment, a colon that a gap follows, a line
  that is not indented enough and, inside brackets, the characters that
  structure lists and mappings.  It may go over several lines, which are
  folded as between quotes.  Tabs end it.
-/

namespace BenchCompare.Yaml

/-- The characters that end a plain scalar inside brackets. -/
def flowIndicators : List Char := [',', '?', '[', ']', '\x7b', '\x7d']

/-- The characters that a colon may stand in front of, inside brackets, to end a plain scalar. -/
def flowFollowers : List Char := [',', '[', ']', '\x7b', '\x7d']

/-- Whether a text starts with a character of a plain scalar.  `flow` says whether this is inside
brackets. -/
def continuesPlain (flow : Bool) : List Char → Bool
  | [] => false
  | ch :: rest =>
    !(isSpace ch || isBreak ch || (flow && flowIndicators.contains ch) ||
      (ch = ':' && (isGap rest.head? || (flow && rest.head?.any flowFollowers.contains))))

/-! ### Gaps -/

/-- What stands between two words of a plain scalar. -/
structure PlainGap where
  /-- The gap as part of the text, folded. -/
  text : List Char
  /-- Whether it has a line end. -/
  breaksLine : Bool
  /-- The place behind it. -/
  after : Cursor

/-- The line ends at the start of a line, with the spaces around them left out; none if a document starts
or ends at the start of one of the lines, in which case the place is there. -/
def plainBreaks (fresh : Bool) (c : Cursor) : Option (List Char) × Cursor :=
  match _h : c.rest with
  | [] => (some [], c)
  | ch :: _ =>
    if fresh && isMarker c.rest then (none, c)
    else if ch = ' ' then plainBreaks false c.next
    else if isBreak ch then
      let (breaks?, after) := plainBreaks true c.next
      (breaks?.map (plainBreak ch :: ·), after)
    else (some [], c)
termination_by c.rest.length
decreasing_by all_goals exact Cursor.length_next _h

/-- The gap at a place behind a word. -/
def plainGap (c : Cursor) : PlainGap :=
  let (blanks, after) := c.takeWhile (· = ' ')
  match after.peek with
  | some ch =>
    if isBreak ch then
      let (breaks?, last) := plainBreaks true after.next
      ⟨(breaks?.map (folded (plainBreak ch))).getD [], true, last⟩
    else ⟨blanks, false, after⟩
  | none => ⟨blanks, false, after⟩

/-! ### Scalars -/

/-- A plain scalar that was read. -/
structure PlainScalar where
  /-- Its text. -/
  text : String
  /-- Whether a new line was started behind its last word. -/
  breaksLine : Bool
  /-- The place behind it. -/
  after : Cursor

/-- The plain scalar whose text up to here is `before` in reverse order.  `indent` is the least column of
its lines, and `fuel` bounds the number of characters and gaps. -/
def plainFrom (flow : Bool) (indent : Nat) : Nat → List Char → Cursor → PlainScalar
  | 0, before, c => ⟨String.ofList before.reverse, false, c⟩
  | fuel + 1, before, c =>
    if continuesPlain flow c.rest then
      plainFrom flow indent fuel (c.rest.take 1 ++ before) c.next
    else
      let gap := plainGap c
      let there := gap.after
      -- Without a gap the scalar was ended by an indicator, and with one a comment or a line that is not
      -- indented enough ends it.
      let ended := gap.text.isEmpty || there.peek = some '#' || (!flow && there.column < indent)
      if ended || !continuesPlain flow there.rest then
        ⟨String.ofList before.reverse, gap.breaksLine, there⟩
      else plainFrom flow indent fuel (gap.text.reverse ++ before) there

/-- The plain scalar that starts here.  `size` is no less than the number of characters that are left. -/
def plainScalar (size : Nat) (flow : Bool) (indent : Nat) (c : Cursor) : PlainScalar :=
  plainFrom flow indent (size + 1) [] c

end BenchCompare.Yaml
