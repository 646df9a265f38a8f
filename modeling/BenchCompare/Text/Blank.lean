import BenchCompare.Text.Basic

/-!
# Blank characters

The characters that Unicode counts as white space or as separators of lines and paragraphs, with the
four information separators of ASCII.  They are what is cut at the end of a printed line.
-/

namespace BenchCompare.Text

/-- The code points of the blank characters, as inclusive ranges in increasing order. -/
def blankRanges : List (Nat × Nat) :=
  [(0x09, 0x0d), (0x1c, 0x20), (0x85, 0x85), (0xa0, 0xa0), (0x1680, 0x1680), (0x2000, 0x200a),
    (0x2028, 0x2029), (0x202f, 0x202f), (0x205f, 0x205f), (0x3000, 0x3000)]

/-- Whether a character is blank. -/
def isBlank (c : Char) : Bool := blankRanges.any fun (low, high) => low ≤ c.toNat && c.toNat ≤ high

/-- Whether a character is blank around a numeral.  The information separators are not. -/
def isNumeralBlank (c : Char) : Bool := isBlank c && !(0x1c ≤ c.toNat && c.toNat ≤ 0x1f)

/-- The text without the blanks at its end. -/
def trimEnd {α : Type} (p : α → Bool) (cs : List α) : List α := (cs.reverse.dropWhile p).reverse

/-- The text without the blanks at its two ends. -/
def trim {α : Type} (p : α → Bool) (cs : List α) : List α := trimEnd p (cs.dropWhile p)

/-- Whether a code point is a blank character. -/
def isBlankPoint (c : CodePoint) : Bool := c.fits isBlank

example : isBlank ' ' ∧ isBlank '\n' ∧ isBlank '\u3000' ∧ ¬ isBlank '\u200b' := by decide

end BenchCompare.Text
