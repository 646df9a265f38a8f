import BenchCompare.Layout.Grid
import BenchCompare.Proofs.Text.Blank
import BenchCompare.Proofs.Text.Lines
import Mathlib.Algebra.BigOperators.Group.List.Basic
import Mathlib.Data.List.Forall2

/-! # What the lines of a grid show

  A line of a grid shows the cells of a row, in order and as they are, with nothing
  but spaces around them, and without the blanks at its end.  So the text of a
  grid has one line for each row, unless there are line feeds in the cells.

  * `Shows cells line`: the line shows the cells and is as long as the grid is wide.
  * `ShowsCut row line`: the line shows the row, and the blanks at its end are cut.
  * `lineFeeds row`: how many line feeds of a row are left in its line.

  * `RowByRow rows text`: the text shows the rows, line after line.

  Main statement: `rowByRow_render`.
-/

namespace BenchCompare.Layout

/-- The cells as they are, in order, with spaces around them. -/
inductive Shows : List (List CodePoint) → List CodePoint → Prop
  | blank (n : Nat) : Shows [] (List.replicate n CodePoint.space)
  | cell (n : Nat) (c : List CodePoint) {cells : List (List CodePoint)} {rest : List CodePoint}
      (shows : Shows cells rest) : Shows (c :: cells) (List.replicate n CodePoint.space ++ (c ++ rest))

/-- A line shows a row, and no blanks at its end. -/
def ShowsCut (row : List Text) (line : Text) : Prop :=
  ∃ full, Shows (row.map Text.toList) full ∧ line.toList = Text.trimEnd Text.isBlankPoint full

/-- The line feeds in a row, but for those that only blanks follow. -/
def lineFeeds (row : List Text) : Nat :=
  (Text.trimEnd Text.isBlankPoint (row.map Text.toList).flatten).count CodePoint.lineFeed

/-- A text shows rows, each in one line if there are no line feeds in it. -/
structure RowByRow (rows : List (List Text)) (text : Text) : Prop where
  /-- The rows are shown one after the other, with a line feed between them.  These are all the lines of
  the text if there are no line feeds in the rows. -/
  shown : ∃ lines, text = Text.intercalate "\n" lines ∧ List.Forall₂ ShowsCut rows lines ∧
    ((∀ row ∈ rows, lineFeeds row = 0) → Text.splitOn CodePoint.lineFeed text.toList = lines.map Text.toList)
  /-- Each line feed in a row makes one line more. -/
  count : (Text.splitOn CodePoint.lineFeed text.toList).length = (rows.map fun row => lineFeeds row + 1).sum

/-! ### Lines -/

theorem Shows.indent {cells : List (List CodePoint)} {line : List CodePoint} (h : Shows cells line) (k : Nat) :
    Shows cells (List.replicate k CodePoint.space ++ line) := by
  cases h with
  | blank n =>
    rw [← List.replicate_add]
    exact .blank (k + n)
  | cell n c shows =>
    rw [← List.append_assoc, ← List.replicate_add]
    exact .cell (k + n) c shows

/-- A cell is filled up with spaces on one of its sides. -/
theorem Shows.justify {cells : List (List CodePoint)} {rest : List CodePoint} (h : Shows cells rest)
    (alignment : Alignment) (width : Nat) (c : List CodePoint) :
    Shows (c :: cells) (justify alignment width c ++ rest) := by
  cases alignment with
  | left =>
    have hcell := Shows.cell 0 c (h.indent (width - c.length))
    simpa [Layout.justify] using hcell
  | right =>
    have hcell := Shows.cell (width - c.length) c h
    simpa [Layout.justify] using hcell

/-- The cells of a row at full width, if there are enough columns. -/
theorem shows_intercalate {columns : List (Alignment × Nat)} {row : List Text}
    (h : row.length ≤ columns.length) : Shows (row.map Text.toList)
      ([CodePoint.space, CodePoint.space].intercalate (List.zipWith
        (fun (a, w) (cell : Text) => justify a w cell.toList) columns row)) := by
  induction row generalizing columns with
  | nil =>
    rw [List.zipWith_nil_right]
    exact .blank 0
  | cons cell row ih =>
    cases columns with
    | nil => simp at h
    | cons column columns =>
      obtain ⟨a, w⟩ := column
      have hrow : row.length ≤ columns.length := by simpa using h
      rw [List.zipWith_cons_cons, List.map_cons]
      by_cases hnil : row = []
      · subst hnil
        have hcell := (Shows.blank 0).justify a w cell.toList
        rw [List.replicate_zero, List.append_nil] at hcell
        rwa [List.zipWith_nil_right, List.intercalate_singleton]
      · have hcells : List.zipWith (fun (a, w) (cell : Text) => justify a w cell.toList) columns
            row ≠ [] := by
          rw [ne_eq, List.zipWith_eq_nil_iff, not_or]
          refine ⟨?_, hnil⟩
          rintro rfl
          simp [hnil] at hrow
        rw [List.intercalate_cons_of_ne_nil hcells, List.append_assoc]
        exact ((ih hrow).indent 2).justify a w cell.toList

/-! ### Columns -/

theorem length_widths {headers : List Text} {rows : List (List Text)}
    (h : ∀ row ∈ rows, row.length = headers.length) : (widths headers rows).length = headers.length := by
  have hfold : ∀ ws : List Nat, ws.length = headers.length →
      (rows.foldl (fun ws row => List.zipWith max ws (row.map Text.length)) ws).length =
        headers.length := by
    induction rows with
    | nil => exact fun ws hws => hws
    | cons row rows ih =>
      obtain ⟨hrow, hrows⟩ := List.forall_mem_cons.mp h
      intro ws hws
      rw [List.foldl_cons]
      apply ih hrows
      simp [hws, hrow]
  exact hfold _ (List.length_map _)

/-- A row that has as many cells as there are headers stays as it is. -/
theorem fit_eq_self {n : Nat} {row : List Text} (h : row.length = n) : fit n row = row := by
  simp [fit, ← h]

section

variable {headers : List Text} {rows : List (List Text)}

/-- Each line shows one row, in order. -/
theorem showsCut_lines (h : ∀ row ∈ rows, row.length = headers.length)
    (alignments : List Alignment) (indent : Nat) :
    List.Forall₂ ShowsCut (headers :: rows) (lines headers rows alignments indent) := by
  have hfit : rows.map (fit headers.length) = rows := by
    conv_rhs => rw [← List.map_id rows]
    exact List.map_congr_left fun row hrow => fit_eq_self (h row hrow)
  have hall : ∀ row ∈ headers :: rows, row.length = headers.length :=
    List.forall_mem_cons.mpr ⟨rfl, h⟩
  unfold lines
  dsimp only
  rw [hfit, List.forall₂_map_right_iff, List.forall₂_same]
  intro row hrow
  refine ⟨_, ?_, rfl⟩
  unfold fullLine
  refine (shows_intercalate ?_).indent indent
  rw [hall row hrow, List.length_zip, length_widths h]
  simp
  omega

end

/-! ### Line feeds -/

theorem Shows.filter {cells : List (List CodePoint)} {line : List CodePoint} (h : Shows cells line) :
    line.filter (· ≠ CodePoint.space) = cells.flatten.filter (· ≠ CodePoint.space) := by
  induction h with
  | blank n =>
    rw [List.filter_replicate_of_neg (by simp)]
    rfl
  | cell n c shows ih =>
    rw [List.filter_append, List.filter_append, List.flatten_cons, List.filter_append, ih,
      List.filter_replicate_of_neg (by simp), List.nil_append]

/-- The line feeds of a line are those of its row. -/
theorem ShowsCut.count {row : List Text} {line : Text} (h : ShowsCut row line) :
    line.toList.count CodePoint.lineFeed = lineFeeds row := by
  obtain ⟨full, hshows, hline⟩ := h
  have hspace : ∀ c : CodePoint, decide (c ≠ CodePoint.space) = false → Text.isBlankPoint c = true := by
    intro c hc
    have hc' : c = CodePoint.space := by simpa using hc
    rw [hc']
    decide
  unfold lineFeeds
  rw [hline, ← List.count_filter (p := (· ≠ CodePoint.space)) (by decide), Text.filter_trimEnd hspace, hshows.filter,
    ← Text.filter_trimEnd hspace, List.count_filter (by decide)]

theorem map_count_eq {rows : List (List Text)} {lines : List Text}
    (h : List.Forall₂ ShowsCut rows lines) :
    (lines.map Text.toList).map (fun line => line.count CodePoint.lineFeed + 1) =
      rows.map fun row => lineFeeds row + 1 := by
  induction h with
  | nil => rfl
  | cons hrow _ ih => simp only [List.map_cons, ih, hrow.count]

/-- Rows that are not too many lines have no line feeds. -/
theorem RowByRow.length_eq_iff {rows : List (List Text)} {text : Text} (h : RowByRow rows text) :
    (Text.splitOn CodePoint.lineFeed text.toList).length = rows.length ↔ ∀ row ∈ rows, lineFeeds row = 0 := by
  have hsum : (rows.map fun row => lineFeeds row + 1).sum =
      (rows.map lineFeeds).sum + rows.length := by
    rw [List.sum_map_add]
    simp
  rw [h.count, hsum, Nat.add_eq_right, List.sum_eq_zero_iff_forall_eq_nat, List.forall_mem_map]

/-- **A grid shows its headers and its rows, line after line.** -/
theorem rowByRow_render {headers : List Text} {rows : List (List Text)} (hne : headers ≠ [])
    (h : ∀ row ∈ rows, row.length = headers.length) (alignments : List Alignment) (indent : Nat) :
    RowByRow (headers :: rows) (render headers rows alignments indent) := by
  have hshown := showsCut_lines h alignments indent
  have hlines : (lines headers rows alignments indent).map Text.toList ≠ [] := by
    simp [lines]
  have htext : render headers rows alignments indent =
      Text.intercalate "\n" (lines headers rows alignments indent) := by
    unfold render
    rw [if_neg (by simpa using hne)]
  have hchars : (render headers rows alignments indent).toList =
      [CodePoint.lineFeed].intercalate ((lines headers rows alignments indent).map Text.toList) := by
    rw [htext, Text.toList_intercalate]
    rfl
  refine ⟨⟨_, htext, hshown, ?_⟩, ?_⟩
  · intro hplain
    rw [hchars]
    refine Text.splitOn_intercalate ?_ hlines
    intro line hline
    have hmem := List.mem_map_of_mem (f := fun line => line.count CodePoint.lineFeed + 1) hline
    rw [map_count_eq hshown, List.mem_map] at hmem
    obtain ⟨row, hrow, heq⟩ := hmem
    rw [hplain row hrow] at heq
    exact List.count_eq_zero.mp (by omega)
  · rw [hchars, Text.length_splitOn_intercalate hlines, map_count_eq hshown]

end BenchCompare.Layout
