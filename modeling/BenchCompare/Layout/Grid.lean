import BenchCompare.Text.Basic
import BenchCompare.Text.Blank

/-!
# Aligned grids of text

A grid is a line of headers over rows of cells.  Each column is as wide as its widest cell, columns
stand two spaces apart, and blanks at the end of a line are cut.  Rows are first brought to the number
of headers: short ones get empty cells, long ones lose theirs.
-/

namespace BenchCompare.Layout

/-- The side of its column on which a cell stands. -/
inductive Alignment
  /-- Spaces follow the cell. -/
  | left
  /-- Spaces precede the cell. -/
  | right
  deriving DecidableEq, Repr

/-- The alignment a code stands for: `r` is the right side, anything else the left. -/
def Alignment.ofCode (code : Text) : Alignment := if code = "r" then .right else .left

/-- A row with exactly `n` cells. -/
def fit (n : Nat) (row : List Text) : List Text := (row ++ List.replicate (n - row.length) ("" : Text)).take n

@[simp] theorem length_fit (n : Nat) (row : List Text) : (fit n row).length = n := by
  simp [fit]; omega

/-- The width of each column, over rows that have as many cells as there are headers. -/
def widths (headers : List Text) (rows : List (List Text)) : List Nat :=
  rows.foldl (fun ws row => List.zipWith max ws (row.map Text.length)) (headers.map Text.length)

/-- A cell filled with spaces up to a width. -/
def justify (alignment : Alignment) (width : Nat) (cell : List CodePoint) : List CodePoint :=
  let blanks := List.replicate (width - cell.length) CodePoint.space
  match alignment with
  | .left => cell ++ blanks
  | .right => blanks ++ cell

/-- The cells of a row at full width, two spaces between them, behind the indent. -/
def fullLine (indent : Nat) (alignments : List Alignment) (ws : List Nat) (row : List Text) :
    List CodePoint :=
  let cells := List.zipWith (fun (a, w) (cell : Text) => justify a w cell.toList)
    (alignments.zip ws) row
  List.replicate indent CodePoint.space ++ [CodePoint.space, CodePoint.space].intercalate cells

/-- The lines of a grid, the headers first.  Columns without an alignment stand left. -/
def lines (headers : List Text) (rows : List (List Text)) (alignments : List Alignment)
    (indent : Nat) : List Text :=
  let n := headers.length
  let rows := rows.map (fit n)
  let ws := widths headers rows
  let alignments := alignments ++ List.replicate (n - alignments.length) .left
  (headers :: rows).map fun row =>
    .ofList (Text.trimEnd Text.isBlankPoint (fullLine indent alignments ws row))

/-- The text of a grid: its lines with a line feed between them; nothing without headers. -/
def render (headers : List Text) (rows : List (List Text))
    (alignments : List Alignment) (indent : Nat) : Text :=
  if headers.isEmpty then "" else Text.intercalate "\n" (lines headers rows alignments indent)

end BenchCompare.Layout
