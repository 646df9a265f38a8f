import BenchCompare.Proofs.Layout.Grid
import Mathlib.Order.Bounds.Basic
import Mathlib.Order.MinMax

/-! # The columns of a grid

  A column of a grid is as wide as its widest cell, and it starts at the same place
  in all lines: behind the indent and the columns before it, with two spaces after
  each of these.  A cell stands on one side of its column, filled up with spaces and
  never cut.  Nothing else is in a line, and the blanks at its end are cut.

  * `cellAt row c`: the cell of a row in a column.
  * `offset indent ws c`: the place where a column starts.
  * `Stands right width cell text`: the cell is written in its column.
  * `Columns ws codes indent row full`: the line has the cells of the row in its columns.
  * `columnWidths headers rows`: the widths of the columns, over rows of any lengths.
  * `padded n alignments`: the alignments, with at least `n` of them.
  * `lines?`: the lines, with each width and each alignment looked up by its position.

  Main statement: `columns_aligned`.
-/

namespace BenchCompare.Layout

/-- The cell that a row has in a column; it is empty if the row is too short. -/
def cellAt (row : List Text) (c : Nat) : Text := row.getD c ""

/-- The place where a column starts. -/
def offset (indent : Nat) (ws : List Nat) (c : Nat) : Nat := indent + ((ws.take c).map (· + 2)).sum

/-- A cell is written on one side of its column, as it is. -/
structure Stands (right : Prop) (width : Nat) (cell : Text) (text : List CodePoint) : Prop where
  fits : cell.length ≤ width
  onRight : right → text = List.replicate (width - cell.length) CodePoint.space ++ cell.toList
  onLeft : ¬ right → text = cell.toList ++ List.replicate (width - cell.length) CodePoint.space

/-- A line at full width has the cells of a row in its columns, and spaces everywhere else. -/
structure Columns (ws : List Nat) (codes : List Text) (indent : Nat) (row : List Text)
    (full : List CodePoint) : Prop where
  length : full.length = indent + ws.sum + 2 * (ws.length - 1)
  cell : ∀ c w, ws[c]? = some w →
    Stands (codes[c]? = some ("r" : Text)) w (cellAt row c) ((full.drop (offset indent ws c)).take w)
  space : ∀ i ch, full[i]? = some ch →
    (∀ c w, ws[c]? = some w → i < offset indent ws c ∨ offset indent ws c + w ≤ i) → ch = CodePoint.space

/-- The widths of the columns, over rows of any lengths. -/
def columnWidths (headers : List Text) (rows : List (List Text)) : List Nat :=
  widths headers (rows.map (fit headers.length))

/-- The alignments of so many columns: those without one stand left. -/
def padded (n : Nat) (alignments : List Alignment) : List Alignment :=
  alignments ++ List.replicate (n - alignments.length) .left

/-! ### Positions -/

/-- The widths after one more cell, whose width is looked up by its position. -/
def widenAt? (ws : List Nat) (cell : Text × Nat) : Option (List Nat) := do
  let w ← ws[cell.2]?
  return ws.set cell.2 (max w cell.1.length)

/-- The widths after one more row. -/
def widen? (ws : List Nat) (row : List Text) : Option (List Nat) := row.zipIdx.foldlM widenAt? ws

/-- A cell at full width, where its alignment and its width are looked up by its position. -/
def cell? (alignments : List Alignment) (ws : List Nat) (cell : Text × Nat) : Option (List CodePoint) := do
  let a ← alignments[cell.2]?
  let w ← ws[cell.2]?
  return justify a w cell.1.toList

/-- A line with these cells. -/
def line? (indent : Nat) (alignments : List Alignment) (ws : List Nat) (row : List Text) :
    Option Text := do
  let cells ← row.zipIdx.mapM (cell? alignments ws)
  return Text.ofList (Text.trimEnd Text.isBlankPoint
    (List.replicate indent CodePoint.space ++ [CodePoint.space, CodePoint.space].intercalate cells))

/-- The lines of a grid, unless a position is looked up where there is nothing. -/
def lines? (headers : List Text) (rows : List (List Text)) (alignments : List Alignment)
    (indent : Nat) : Option (List Text) := do
  let rows := rows.map (fit headers.length)
  let ws ← rows.foldlM widen? (headers.map Text.length)
  (headers :: rows).mapM (line? indent (padded headers.length alignments) ws)

/-- What is known of a grid: its columns and its lines. -/
structure GridLayout (headers : List Text) (rows : List (List Text)) (codes : List Text)
    (indent : Nat) (ws : List Nat) (shown : List Text) : Prop where
  /-- There is one column for each header. -/
  columns : ws.length = headers.length
  /-- A column is as wide as its widest cell. -/
  widest : ∀ c w, ws[c]? = some w →
    IsGreatest {l | ∃ row ∈ headers :: rows, l = (cellAt row c).length} w
  /-- Columns are two spaces apart. -/
  apart : ∀ c w, ws[c]? = some w → offset indent ws (c + 1) = offset indent ws c + w + 2
  /-- The text has these lines. -/
  text : render headers rows (codes.map .ofCode) indent = Text.intercalate "\n" shown
  /-- There is one line for the headers and for each row: the columns, without the blanks at the end. -/
  lines : List.Forall₂ (fun row line => ∃ full, Columns ws codes indent row full ∧
    Text.Trimmed Text.isBlankPoint full line.toList) (headers :: rows) shown
  /-- Nothing is looked up where there is nothing. -/
  inRange : lines? headers rows (codes.map .ofCode) indent = some shown

/-! ### Offsets -/

theorem offset_zero (indent : Nat) (ws : List Nat) : offset indent ws 0 = indent := rfl

theorem offset_cons (indent w : Nat) (ws : List Nat) (c : Nat) :
    offset indent (w :: ws) (c + 1) = indent + w + offset 2 ws c := by
  simp only [offset, List.take_succ_cons, List.map_cons, List.sum_cons]
  omega

theorem offset_succ {indent c w : Nat} {ws : List Nat} (h : ws[c]? = some w) :
    offset indent ws (c + 1) = offset indent ws c + w + 2 := by
  rw [offset, offset, List.take_add_one, h, Option.toList_some, List.map_append, List.sum_append]
  simp
  omega

/-! ### Texts side by side -/

/-- Texts with two spaces between them, behind an indent. -/
def sideBySide (indent : Nat) (texts : List (List CodePoint)) : List CodePoint :=
  List.replicate indent CodePoint.space ++ [CodePoint.space, CodePoint.space].intercalate texts

theorem sideBySide_singleton (indent : Nat) (text : List CodePoint) :
    sideBySide indent [text] = List.replicate indent CodePoint.space ++ text := by
  rw [sideBySide, List.intercalate_singleton]

/-- The texts after the first one stand as if they were behind an indent of two. -/
theorem sideBySide_cons (indent : Nat) (text : List CodePoint) {texts : List (List CodePoint)} (h : texts ≠ []) :
    sideBySide indent (text :: texts) =
      (List.replicate indent CodePoint.space ++ text) ++ sideBySide 2 texts := by
  rw [sideBySide, List.intercalate_cons_of_ne_nil h, sideBySide]
  simp only [List.append_assoc]
  rfl

theorem length_sideBySide (indent : Nat) (texts : List (List CodePoint)) :
    (sideBySide indent texts).length =
      indent + (texts.map List.length).sum + 2 * (texts.length - 1) := by
  induction texts generalizing indent with
  | nil => simp [sideBySide]
  | cons text texts ih =>
    by_cases hnil : texts = []
    · subst hnil
      simp [sideBySide_singleton]
    · have hpos : 0 < texts.length := List.length_pos_of_ne_nil hnil
      rw [sideBySide_cons indent text hnil, List.length_append, ih]
      simp only [List.length_append, List.length_replicate, List.map_cons, List.sum_cons,
        List.length_cons]
      omega

/-- Each text stands at its offset. -/
theorem take_drop_sideBySide (indent : Nat) {texts : List (List CodePoint)} {c : Nat} {text : List CodePoint}
    (h : texts[c]? = some text) :
    ((sideBySide indent texts).drop (offset indent (texts.map List.length) c)).take text.length =
      text := by
  -- What stands before the other texts is passed over, and these are behind an indent of two.
  induction texts generalizing indent c with
  | nil => cases h
  | cons first texts ih =>
    have hindent : (List.replicate indent CodePoint.space).length = indent := List.length_replicate
    cases c with
    | zero =>
      obtain rfl : first = text := by simpa using h
      rw [offset_zero]
      by_cases hnil : texts = []
      · rw [hnil, sideBySide_singleton, List.drop_left' hindent, List.take_length]
      · rw [sideBySide_cons indent first hnil, List.append_assoc, List.drop_left' hindent,
          List.take_left' rfl]
    | succ c =>
      have htexts : texts[c]? = some text := by simpa using h
      have hnil : texts ≠ [] := by
        rintro rfl
        cases htexts
      have hfirst : (List.replicate indent CodePoint.space ++ first).length = indent + first.length := by
        rw [List.length_append, hindent]
      rw [sideBySide_cons indent first hnil, List.map_cons, offset_cons, ← List.drop_drop,
        List.drop_left' hfirst]
      exact ih 2 htexts

/-- Between the texts there are spaces. -/
theorem eq_space_of_sideBySide (indent : Nat) {texts : List (List CodePoint)} {i : Nat} {ch : CodePoint}
    (hch : (sideBySide indent texts)[i]? = some ch)
    (hout : ∀ c text, texts[c]? = some text →
      i < offset indent (texts.map List.length) c ∨
        offset indent (texts.map List.length) c + text.length ≤ i) : ch = CodePoint.space := by
  induction texts generalizing indent i with
  | nil =>
    rw [sideBySide, List.intercalate_nil, List.append_nil] at hch
    exact (List.mem_replicate.mp (List.mem_of_getElem? hch)).2
  | cons first texts ih =>
    have hindent : (List.replicate indent CodePoint.space).length = indent := List.length_replicate
    have hfirst : (List.replicate indent CodePoint.space ++ first).length = indent + first.length := by
      rw [List.length_append, hindent]
    have hzero := hout 0 first rfl
    rw [offset_zero] at hzero
    have hline : (sideBySide indent (first :: texts)) =
        List.replicate indent CodePoint.space ++ first ++ (if texts = [] then [] else sideBySide 2 texts) := by
      split
      · next hnil => rw [hnil, sideBySide_singleton, List.append_nil]
      · next hnil => exact sideBySide_cons indent first hnil
    rw [hline] at hch
    -- A place outside of the first text is in the indent, or among the other texts.
    rcases hzero with hlt | hle
    · rw [List.append_assoc, List.getElem?_append_left (by omega)] at hch
      exact (List.mem_replicate.mp (List.mem_of_getElem? hch)).2
    · rw [List.getElem?_append_right (by omega), hfirst] at hch
      split at hch
      · cases hch
      · refine ih 2 hch ?_
        intro c text htext
        have hafter := hout (c + 1) text htext
        rw [List.map_cons, offset_cons] at hafter
        omega

/-! ### Cells -/

/-- The cells of a row at full width. -/
def fullCells (alignments : List Alignment) (ws : List Nat) (row : List Text) : List (List CodePoint) :=
  List.zipWith (fun column (cell : Text) => justify column.1 column.2 cell.toList)
    (alignments.zip ws) row

theorem fullLine_eq (indent : Nat) (alignments : List Alignment) (ws : List Nat) (row : List Text) :
    fullLine indent alignments ws row = sideBySide indent (fullCells alignments ws row) := rfl

theorem stands_justify (code : Text) {width : Nat} {cell : Text} (h : cell.length ≤ width) :
    Stands (code = "r") width cell (justify (.ofCode code) width cell.toList) where
  fits := h
  onRight hright := by
    rw [hright]
    rfl
  onLeft hleft := by
    rw [Alignment.ofCode, if_neg hleft]
    rfl

theorem length_justify (alignment : Alignment) {width : Nat} {cell : Text} (h : cell.length ≤ width) :
    (justify alignment width cell.toList).length = width := by
  have hcell : cell.toList.length = cell.length := Text.length_toList _
  cases alignment <;> simp [justify] <;> omega

theorem forall_length_fit (n : Nat) (rows : List (List Text)) :
    ∀ row ∈ rows.map (fit n), row.length = n := by
  rw [List.forall_mem_map]
  exact fun row _ => length_fit n row

/-- Rows that are too short get empty cells, and rows that are too long lose theirs. -/
theorem getElem?_fit {n c : Nat} (h : c < n) (row : List Text) :
    (fit n row)[c]? = some (cellAt row c) := by
  rw [fit, List.getElem?_take_of_lt h, cellAt, List.getD_eq_getElem?_getD]
  by_cases hc : c < row.length
  · rw [List.getElem?_append_left hc, List.getElem?_eq_getElem hc, Option.getD_some]
  · have hc' : row.length ≤ c := Nat.le_of_not_lt hc
    rw [List.getElem?_append_right hc', List.getElem?_replicate, if_pos (by omega),
      List.getElem?_eq_none hc', Option.getD_none]

theorem cellAt_fit {n c : Nat} (h : c < n) (row : List Text) : cellAt (fit n row) c = cellAt row c := by
  rw [cellAt, List.getD_eq_getElem?_getD, getElem?_fit h, Option.getD_some]

theorem getElem?_padded {n c : Nat} (h : c < n) (codes : List Text) :
    (padded n (codes.map .ofCode))[c]? = some (.ofCode (codes.getD c "l")) := by
  rw [padded, List.length_map, List.getD_eq_getElem?_getD]
  by_cases hc : c < codes.length
  · rw [List.getElem?_append_left (by simpa using hc), List.getElem?_map, List.getElem?_eq_getElem hc]
    rfl
  · have hc' : codes.length ≤ c := Nat.le_of_not_lt hc
    rw [List.getElem?_append_right (by simpa using hc'), List.getElem?_replicate,
      if_pos (by rw [List.length_map]; omega), List.getElem?_eq_none hc', Option.getD_none]
    rfl

section

variable {headers : List Text} {rows : List (List Text)} {ws : List Nat}

theorem getElem?_fullCells {n : Nat} (hws : ws.length = n) (codes row : List Text) (c : Nat) :
    (fullCells (padded n (codes.map .ofCode)) ws (fit n row))[c]? =
      ws[c]?.map fun w => justify (.ofCode (codes.getD c "l")) w (cellAt row c).toList := by
  rw [fullCells, List.getElem?_zipWith]
  cases hw : ws[c]? with
  | none =>
    have hzip : ((padded n (codes.map .ofCode)).zip ws)[c]? = none := by
      rw [List.getElem?_eq_none_iff] at hw ⊢
      rw [List.length_zip]
      omega
    rw [hzip]
    rfl
  | some w =>
    have hc : c < n := hws ▸ (List.getElem?_eq_some_iff.mp hw).1
    have hzip : ((padded n (codes.map .ofCode)).zip ws)[c]? =
        some (.ofCode (codes.getD c "l"), w) :=
      List.getElem?_zip_eq_some.mpr ⟨getElem?_padded hc codes, hw⟩
    rw [hzip, getElem?_fit hc]
    rfl

/-- A line at full width has its columns if they are wide enough. -/
theorem columns_fullLine {n : Nat} (hws : ws.length = n) (codes : List Text) (indent : Nat)
    {row : List Text} (hfits : ∀ c w, ws[c]? = some w → (cellAt row c).length ≤ w) :
    Columns ws codes indent row (fullLine indent (padded n (codes.map .ofCode)) ws (fit n row)) := by
  have hcells := getElem?_fullCells hws codes row
  rw [fullLine_eq]
  -- From here on only the places and the lengths of the cells matter.
  generalize fullCells (padded n (codes.map .ofCode)) ws (fit n row) = texts at hcells
  have hlengths : texts.map List.length = ws := by
    apply List.ext_getElem?
    intro c
    rw [List.getElem?_map, hcells, Option.map_map]
    cases hw : ws[c]? with
    | none => rfl
    | some w => exact congrArg some (length_justify _ (hfits c w hw))
  have hcount : texts.length = ws.length := by
    rw [← hlengths, List.length_map]
  refine ⟨?_, ?_, ?_⟩
  · rw [length_sideBySide, hlengths, hcount]
  · intro c w hw
    have hcell := hcells c
    rw [hw, Option.map_some] at hcell
    have hplace := take_drop_sideBySide indent hcell
    rw [hlengths, length_justify _ (hfits c w hw)] at hplace
    have hcode : (codes[c]? = some ("r" : Text)) = (codes.getD c "l" = "r") := by
      rw [List.getD_eq_getElem?_getD]
      cases codes[c]? <;> simp
    rw [hcode, hplace]
    exact stands_justify _ (hfits c w hw)
  · intro i ch hch hout
    refine eq_space_of_sideBySide indent hch ?_
    intro c text hc
    rw [hlengths]
    have hw : ws[c]? = some text.length := by
      rw [← hlengths, List.getElem?_map, hc, Option.map_some]
    exact hout c text.length hw

/-! ### Widths -/

/-- After a row each width is the greater one of what it was and of the length of the cell. -/
theorem getElem?_zipWith_max {row : List Text} {c w : Nat} (hlength : row.length = ws.length)
    (h : ws[c]? = some w) :
    (List.zipWith max ws (row.map Text.length))[c]? = some (max w (cellAt row c).length) := by
  obtain ⟨hc, -⟩ := List.getElem?_eq_some_iff.mp h
  have hrow : c < row.length := by omega
  rw [List.getElem?_zipWith, h, List.getElem?_map, List.getElem?_eq_getElem hrow, cellAt,
    List.getD_eq_getElem?_getD, List.getElem?_eq_getElem hrow]
  rfl

/-- After all rows each width is the greatest one of what it was and of the lengths of the cells. -/
theorem isGreatest_foldl (hrows : ∀ row ∈ rows, row.length = ws.length) {c w : Nat}
    (h : ws[c]? = some w) :
    ∃ w', (rows.foldl (fun ws row => List.zipWith max ws (row.map Text.length)) ws)[c]? = some w' ∧
      IsGreatest (insert w {l | ∃ row ∈ rows, l = (cellAt row c).length}) w' := by
  induction rows generalizing ws w with
  | nil =>
    refine ⟨w, h, .inl rfl, ?_⟩
    rintro l (rfl | ⟨row, hrow, -⟩)
    · exact le_rfl
    · cases hrow
  | cons row rows ih =>
    obtain ⟨hrow, hrows⟩ := List.forall_mem_cons.mp hrows
    have hlength : (List.zipWith max ws (row.map Text.length)).length = ws.length := by
      simp [hrow]
    -- The other rows start from the widths that the first one leaves.
    obtain ⟨w', hw', hmem, hupper⟩ := ih (hlength.symm ▸ hrows) (getElem?_zipWith_max hrow h)
    refine ⟨w', hw', ?_, ?_⟩
    · rcases hmem with rfl | ⟨row', hrow', rfl⟩
      · rcases max_choice w (cellAt row c).length with hmax | hmax
        · exact .inl hmax
        · exact .inr ⟨row, List.mem_cons_self, hmax⟩
      · exact .inr ⟨row', List.mem_cons_of_mem _ hrow', rfl⟩
    · have hmax := max_le_iff.mp (hupper (.inl rfl))
      rintro l (rfl | ⟨row', hrow', rfl⟩)
      · exact hmax.1
      · rcases List.mem_cons.mp hrow' with rfl | hrow'
        · exact hmax.2
        · exact hupper (.inr ⟨row', hrow', rfl⟩)

theorem length_columnWidths (headers : List Text) (rows : List (List Text)) :
    (columnWidths headers rows).length = headers.length :=
  length_widths (forall_length_fit headers.length rows)

theorem isGreatest_columnWidths {c w : Nat} (h : (columnWidths headers rows)[c]? = some w) :
    IsGreatest {l | ∃ row ∈ headers :: rows, l = (cellAt row c).length} w := by
  have hc : c < headers.length :=
    length_columnWidths headers rows ▸ (List.getElem?_eq_some_iff.mp h).1
  have hheader : (headers.map Text.length)[c]? = some (cellAt headers c).length := by
    rw [List.getElem?_map, cellAt, List.getD_eq_getElem?_getD, List.getElem?_eq_getElem hc]
    rfl
  have hrows : ∀ row ∈ rows.map (fit headers.length),
      row.length = (headers.map Text.length).length := by
    rw [List.length_map]
    exact forall_length_fit headers.length rows
  obtain ⟨w', hw', hgreatest⟩ := isGreatest_foldl hrows hheader
  obtain rfl : w' = w := Option.some.inj (hw'.symm.trans h)
  have hsame : {l | ∃ row ∈ headers :: rows, l = (cellAt row c).length} =
      insert (cellAt headers c).length
        {l | ∃ row ∈ rows.map (fit headers.length), l = (cellAt row c).length} := by
    ext l
    simp [cellAt_fit hc]
  rwa [hsame]

/-! ### Lines -/

/-- Each line comes from one row, the headers or another one, that is brought to the number of headers. -/
theorem lines_eq (headers : List Text) (rows : List (List Text)) (alignments : List Alignment)
    (indent : Nat) : lines headers rows alignments indent = (headers :: rows).map fun row =>
      Text.ofList (Text.trimEnd Text.isBlankPoint (fullLine indent (padded headers.length alignments)
        (columnWidths headers rows) (fit headers.length row))) := by
  rw [List.map_cons, fit_eq_self rfl]
  unfold lines
  dsimp only
  rw [List.map_cons, List.map_map]
  rfl

theorem forall₂_columns (headers : List Text) (rows : List (List Text)) (codes : List Text)
    (indent : Nat) : List.Forall₂ (fun row line => ∃ full,
      Columns (columnWidths headers rows) codes indent row full ∧
        Text.Trimmed Text.isBlankPoint full line.toList)
      (headers :: rows) (lines headers rows (codes.map .ofCode) indent) := by
  rw [lines_eq, List.forall₂_map_right_iff, List.forall₂_same]
  intro row hrow
  refine ⟨_, columns_fullLine (length_columnWidths headers rows) codes indent ?_,
    Text.trimmed_trimEnd _ _⟩
  intro c w hw
  exact (isGreatest_columnWidths hw).2 ⟨row, hrow, rfl⟩

/-! ### No position is out of range -/

theorem widen?_eq {row : List Text} (h : row.length = ws.length) :
    widen? ws row = some (List.zipWith max ws (row.map Text.length)) := by
  -- The induction is on the cells that are left; `done` are the widths that are changed already.
  have hrest : ∀ done : List Nat, (row.zipIdx done.length).foldlM widenAt? (done ++ ws) =
      some (done ++ List.zipWith max ws (row.map Text.length)) := by
    induction row generalizing ws with
    | nil =>
      obtain rfl : ws = [] := List.eq_nil_of_length_eq_zero h.symm
      exact fun done => rfl
    | cons cell row ih =>
      obtain _ | ⟨w, ws⟩ := ws
      · cases h
      · intro done
        have hcell : widenAt? (done ++ w :: ws) (cell, done.length) =
            some (done ++ max w cell.length :: ws) := by
          simp [widenAt?]
        have hdone := ih (Nat.succ.inj h) (done ++ [max w cell.length])
        rw [List.length_append, List.append_assoc, List.append_assoc] at hdone
        rw [List.zipIdx_cons, List.foldlM_cons, hcell]
        exact hdone
  exact hrest []

theorem foldlM_widen? (h : ∀ row ∈ rows, row.length = ws.length) :
    rows.foldlM widen? ws =
      some (rows.foldl (fun ws row => List.zipWith max ws (row.map Text.length)) ws) := by
  induction rows generalizing ws with
  | nil => rfl
  | cons row rows ih =>
    obtain ⟨hrow, hrows⟩ := List.forall_mem_cons.mp h
    rw [List.foldlM_cons, widen?_eq hrow, List.foldl_cons, Option.bind_eq_bind, Option.bind_some]
    apply ih
    intro row' hrow'
    simp [hrow, hrows row' hrow']

theorem line?_eq {indent : Nat} {alignments : List Alignment} {row : List Text}
    (hws : row.length ≤ ws.length) (halignments : row.length ≤ alignments.length) :
    line? indent alignments ws row =
      some (Text.ofList (Text.trimEnd Text.isBlankPoint (fullLine indent alignments ws row))) := by
  -- The cells that are left stand from position `k` on.
  have hcells : ∀ k, k + row.length ≤ ws.length → k + row.length ≤ alignments.length →
      (row.zipIdx k).mapM (cell? alignments ws) =
        some (fullCells (alignments.drop k) (ws.drop k) row) := by
    clear hws halignments
    induction row with
    | nil =>
      intro k _ _
      rw [fullCells, List.zipWith_nil_right]
      rfl
    | cons cell row ih =>
      intro k hws halignments
      rw [List.length_cons] at hws halignments
      have ha : k < alignments.length := by omega
      have hw : k < ws.length := by omega
      have hcell : cell? alignments ws (cell, k) = some (justify alignments[k] ws[k] cell.toList) := by
        rw [cell?, List.getElem?_eq_getElem ha, List.getElem?_eq_getElem hw]
        rfl
      rw [List.zipIdx_cons, List.mapM_cons, ih (k + 1) (by omega) (by omega), hcell,
        List.drop_eq_getElem_cons ha, List.drop_eq_getElem_cons hw]
      rfl
  have hall := hcells 0 (by omega) (by omega)
  rw [line?, hall, fullLine_eq]
  rfl

theorem lines?_eq (headers : List Text) (rows : List (List Text)) (alignments : List Alignment)
    (indent : Nat) :
    lines? headers rows alignments indent = some (lines headers rows alignments indent) := by
  have hws : (rows.map (fit headers.length)).foldlM widen? (headers.map Text.length) =
      some (columnWidths headers rows) := by
    apply foldlM_widen?
    rw [List.length_map]
    exact forall_length_fit headers.length rows
  have hline : ∀ row : List Text, row.length = headers.length →
      line? indent (padded headers.length alignments) (columnWidths headers rows) row =
        some (Text.ofList (Text.trimEnd Text.isBlankPoint (fullLine indent
          (padded headers.length alignments) (columnWidths headers rows) row))) := by
    intro row hrow
    apply line?_eq
    · rw [hrow, length_columnWidths]
    · rw [hrow, padded, List.length_append, List.length_replicate]
      omega
  have hall : ∀ row ∈ headers :: rows.map (fit headers.length), row.length = headers.length :=
    List.forall_mem_cons.mpr ⟨rfl, forall_length_fit headers.length rows⟩
  -- All rows have the right length, so every line is there, and `mapM` is `map`.
  unfold lines? lines
  dsimp only
  rw [hws, Option.bind_eq_bind, Option.bind_some]
  generalize headers :: rows.map (fit headers.length) = all at hall ⊢
  induction all with
  | nil => rfl
  | cons row all ih =>
    obtain ⟨hrow, hrest⟩ := List.forall_mem_cons.mp hall
    rw [List.mapM_cons, hline row hrow, ih hrest]
    rfl

end

/-! ### Main statement -/

/-- **A grid has its columns at the same places in all lines**, each one as wide as its widest cell. -/
theorem columns_aligned (headers : List Text) (rows : List (List Text)) (codes : List Text)
    (indent : Nat) (hne : headers ≠ []) :
    ∃ ws shown, GridLayout headers rows codes indent ws shown := by
  refine ⟨columnWidths headers rows, lines headers rows (codes.map .ofCode) indent, {
    columns := length_columnWidths headers rows
    widest := fun c w hw => isGreatest_columnWidths hw
    apart := fun c w hw => offset_succ hw
    text := ?_
    lines := forall₂_columns headers rows codes indent
    inRange := lines?_eq headers rows _ indent }⟩
  unfold render
  rw [if_neg (by simpa using hne)]

/-- A row that is too short, one that is too long, and a column without an alignment. -/
theorem columns_aligned_raggedRows :
    let codes : List Text := ["l", "r"]
    render ["name", "n", ""] [["a"], ["bb", "22", "?", "!"]] (codes.map .ofCode) 1 =
      " name   n\n a\n bb    22  ?" := by
  intro codes
  obtain ⟨ws, shown, hgrid⟩ := columns_aligned ["name", "n", ""] [["a"], ["bb", "22", "?", "!"]]
    codes 1 (List.cons_ne_nil _ _)
  have hshown : ([" name   n", " a", " bb    22  ?"] : List Text) = shown := by
    have hlines := hgrid.inRange
    have heval : lines? ["name", "n", ""] [["a"], ["bb", "22", "?", "!"]] (codes.map .ofCode) 1 =
        some ([" name   n", " a", " bb    22  ?"] : List Text) := by decide +kernel
    exact Option.some.inj (heval.symm.trans hlines)
  rw [hgrid.text, ← hshown]
  rfl

end BenchCompare.Layout
