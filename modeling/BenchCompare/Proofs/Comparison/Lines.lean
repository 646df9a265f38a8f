import BenchCompare.Proofs.Comparison.Invariant
import BenchCompare.Proofs.Comparison.Rearrangement
import BenchCompare.Proofs.Comparison.Statistics
import BenchCompare.Proofs.Layout.Grid

/-! # One line for each bucket

  A comparison shows its headers and one row for each bucket, in the order of the
  keys, and so do the statistics.  A row is a line, unless there is a line feed in
  the key, or in the comments in front of something that is not blank.

  * `MetricKey.IsLine k`: there are no line feeds in the key.
  * `Bucket.CommentsLine b`: there are none in the comments, but at their end.

  Main statement: `Table.one_line_per_bucket_iff`, with a table behind it that has a
  line too many.
-/

namespace BenchCompare

open Layout (RowByRow lineFeeds)

/-- There are no line feeds in the fields of a key. -/
def MetricKey.IsLine (k : MetricKey) : Prop := ∀ field ∈ k.fields, CodePoint.lineFeed ∉ field.toList

/-- There are no line feeds in the comments, but for those that only blanks follow. -/
def Bucket.CommentsLine (b : Bucket) : Prop := CodePoint.lineFeed ∉ Text.trimEnd Text.isBlankPoint b.comments.toList

instance (k : MetricKey) : Decidable k.IsLine :=
  inferInstanceAs (Decidable (∀ field ∈ k.fields, CodePoint.lineFeed ∉ field.toList))

instance (b : Bucket) : Decidable b.CommentsLine :=
  inferInstanceAs (Decidable (CodePoint.lineFeed ∉ Text.trimEnd Text.isBlankPoint b.comments.toList))

/-! ### Rows -/

section

variable {k : MetricKey} {b : Bucket} {places : Int}

/-- A word without blanks has none as a text. -/
theorem solid_text {s : String} (h : Decimal.IsSolid s) :
    (s : Text).toList ≠ [] ∧ ∀ c ∈ (s : Text).toList, Text.isBlankPoint c = false := by
  obtain ⟨hne, hsolid⟩ := h
  refine ⟨by simpa using hne, ?_⟩
  rw [Text.toList_ofString, List.forall_mem_map]
  exact hsolid

theorem solid_truthText (b : Bool) :
    (truthText b).toList ≠ [] ∧ ∀ c ∈ (truthText b).toList, Text.isBlankPoint c = false := by
  cases b with
  | false => exact solid_text (by decide : Decimal.IsSolid "False")
  | true => exact solid_text (by decide : Decimal.IsSolid "True")

/-- There are no line feeds where there are no blanks. -/
theorem count_eq_zero_of_solid {cs : List CodePoint} (h : ∀ c ∈ cs, Text.isBlankPoint c = false) :
    cs.count CodePoint.lineFeed = 0 := by
  rw [List.count_eq_zero]
  intro hmem
  exact absurd (h _ hmem) (by decide)

theorem isLine_iff : k.IsLine ↔ (k.fields.map Text.toList).flatten.count CodePoint.lineFeed = 0 := by
  rw [List.count_eq_zero, List.mem_flatten]
  simp [MetricKey.IsLine]

theorem lineFeeds_comparisonRow : lineFeeds (comparisonRow k b) =
    (k.fields.map Text.toList).flatten.count CodePoint.lineFeed +
      (Text.trimEnd Text.isBlankPoint b.comments.toList).count CodePoint.lineFeed := by
  have hflatten : ((comparisonRow k b).map Text.toList).flatten =
      ((k.fields.map Text.toList).flatten ++ (truthText b.matched).toList) ++ b.comments.toList := by
    simp [comparisonRow]
  obtain ⟨hne, hsolid⟩ := solid_truthText b.matched
  have htruth := Text.trimEnd_append_of_solid hne hsolid (k.fields.map Text.toList).flatten
  unfold lineFeeds
  rw [hflatten, Text.trimEnd_append_of_trimmed htruth, List.count_append, List.count_append,
    count_eq_zero_of_solid hsolid]
  rfl

/-- There are no blanks in the numbers of a side. -/
theorem ShowsSide.solid {side : Side} {cells : List Text} (h : ShowsSide places b side cells) :
    (cells.map Text.toList).flatten ≠ [] ∧
      ∀ c ∈ (cells.map Text.toList).flatten, Text.isBlankPoint c = false := by
  cases h with
  | cells hmean hdeviation hmaximum =>
    obtain ⟨hne, hcount⟩ := solid_text (Decimal.isSolid_toString (b.samples side).length)
    obtain ⟨-, hmean⟩ := solid_text hmean.isSolid
    obtain ⟨-, hdeviation⟩ := solid_text hdeviation.isSolid
    obtain ⟨-, hmaximum⟩ := solid_text hmaximum.isSolid
    constructor
    · simp only [List.map_cons, List.flatten_cons]
      exact List.append_ne_nil_of_left_ne_nil hne _
    · intro c hc
      simp only [List.map_cons, List.map_nil, List.flatten_cons, List.flatten_nil, List.append_nil,
        List.mem_append] at hc
      rcases hc with hc | hc | hc | hc
      · exact hcount c hc
      · exact hmean c hc
      · exact hdeviation c hc
      · exact hmaximum c hc

/-- Nothing stands behind the last number of a row, so that nothing is cut. -/
theorem lineFeeds_statisticsRow {row : List Text} (h : StatisticsRow places k b row) :
    lineFeeds row = (k.fields.map Text.toList).flatten.count CodePoint.lineFeed := by
  cases h with
  | @cells left right hleft hright =>
    have hflatten : ((([k.test, k.verb, k.resource, k.subresource, k.percentile] ++ left) ++
        right).map Text.toList).flatten = ((k.fields.map Text.toList).flatten ++
          (left.map Text.toList).flatten) ++ (right.map Text.toList).flatten := by
      simp [MetricKey.fields]
    obtain ⟨hne, hsolid⟩ := hright.solid
    unfold lineFeeds
    rw [hflatten, Text.trimEnd_append_of_solid hne hsolid, List.count_append, List.count_append,
      count_eq_zero_of_solid hleft.solid.2, count_eq_zero_of_solid hsolid]
    rfl

end

/-! ### Tables -/

namespace Table

/-- The headers of the comparison. -/
def comparisonHeaders : List Text := keyHeaders ++ (["MATCHED?", "COMMENTS"] : List Text)

/-- The headers of the statistics. -/
def statisticsHeaders : List Text :=
  keyHeaders ++ (["#L", "AVG L", "STDEV L", "MAX L", "#R", "AVG R", "STDEV R", "MAX R"] : List Text)

section

variable {t : Table} {headers : List Text} {rows : List (List Text)} {text : Text} {places : Int}

/-- There are no more lines than rows exactly if each row of a bucket is a line. -/
theorem length_eq_iff_of_rows {R : MetricKey × Bucket → List Text → Prop}
    {P : MetricKey × Bucket → Prop} (hshown : RowByRow (headers :: rows) text)
    (hrows : List.Forall₂ R t.sorted rows) (hheaders : lineFeeds headers = 0)
    (hiff : ∀ e row, R e row → (P e ↔ lineFeeds row = 0)) :
    (Text.splitOn CodePoint.lineFeed text.toList).length = 1 + t.size ↔ ∀ e ∈ t.entries, P e := by
  have hsize : (headers :: rows).length = 1 + t.size := by
    rw [List.length_cons, ← hrows.length_eq, t.sorted_perm.length_eq, Nat.add_comm]
    rfl
  rw [← hsize, hshown.length_eq_iff, List.forall_mem_cons, ← forall_mem_iff_of_forall₂ hrows hiff]
  simp only [hheaders, true_and, t.sorted_perm.mem_iff]

theorem rowByRow_comparison (t : Table) :
    RowByRow (comparisonHeaders :: t.comparisonRows) t.comparison := by
  apply Layout.rowByRow_render (List.cons_ne_nil _ _)
  intro row hrow
  obtain ⟨e, -, rfl⟩ := List.mem_map.mp hrow
  rfl

theorem length_comparison_iff (t : Table) :
    (Text.splitOn CodePoint.lineFeed t.comparison.toList).length = 1 + t.size ↔
      ∀ e ∈ t.entries, e.1.IsLine ∧ e.2.CommentsLine := by
  have hrows : List.Forall₂ (fun e row => row = comparisonRow e.1 e.2) t.sorted t.comparisonRows := by
    unfold comparisonRows
    rw [List.forall₂_map_right_iff, List.forall₂_same]
    exact fun e _ => rfl
  refine length_eq_iff_of_rows t.rowByRow_comparison hrows (by decide +kernel) ?_
  rintro e row rfl
  rw [lineFeeds_comparisonRow, Nat.add_eq_zero_iff, ← isLine_iff, List.count_eq_zero]
  rfl

/-- A row of the statistics has a cell for each header. -/
theorem length_of_statisticsRow {e : MetricKey × Bucket} {row : List Text}
    (h : StatisticsRow places e.1 e.2 row) : row.length = statisticsHeaders.length := by
  cases h with
  | cells hleft hright =>
    cases hleft
    cases hright
    rfl

theorem rowByRow_statistics (hrows : List.Forall₂ (fun e row => StatisticsRow places e.1 e.2 row)
    t.sorted rows) (alignments : List Layout.Alignment) :
    RowByRow (statisticsHeaders :: rows) (Layout.render statisticsHeaders rows alignments 0) := by
  apply Layout.rowByRow_render (List.cons_ne_nil _ _)
  intro row hrow
  obtain ⟨e, -, he⟩ := exists_mem_of_forall₂ hrows hrow
  exact length_of_statisticsRow he

end

/-! ### Main statement -/

/-- **Each bucket has a row of its own**, in the order of the keys, in the report and in the statistics.
The row is a line for every bucket, so that there is one line more than there are buckets, exactly if
there are no line feeds in the keys and, for the report, none in the comments but at their ends. -/
theorem one_line_per_bucket_iff (steps : List Step) :
    let t := empty.run steps
    (t.sorted.Perm t.entries ∧ t.sorted.Pairwise fun a b => a.1 < b.1) ∧
    (∃ text, t.report = "\n" ++ text ∧
      RowByRow (comparisonHeaders :: t.sorted.map fun e => comparisonRow e.1 e.2) text ∧
      ((Text.splitOn CodePoint.lineFeed text.toList).length = 1 + t.size ↔
        ∀ e ∈ t.entries, e.1.IsLine ∧ e.2.CommentsLine)) ∧
    (∀ places text, t.statistics places = .ok text →
      ∃ rows, List.Forall₂ (fun e row => StatisticsRow places e.1 e.2 row) t.sorted rows ∧
        RowByRow (statisticsHeaders :: rows) text ∧
        ((Text.splitOn CodePoint.lineFeed text.toList).length = 1 + t.size ↔ ∀ e ∈ t.entries, e.1.IsLine)) ∧
    (∀ places, 0 ≤ places → places ≤ 0x7fffffff → ∃ text, t.statistics places = .ok text) := by
  have hsound : (empty.run steps).Sound := sound_empty.run steps
  refine ⟨⟨sorted_perm _, pairwise_lt_sorted hsound.nodup⟩, ?_, ?_, ?_⟩
  · exact ⟨_, rfl, rowByRow_comparison _, length_comparison_iff _⟩
  · intro places text h
    obtain ⟨rows, hrows, rfl⟩ := statistics_eq_ok_iff.mp h
    have hshown := rowByRow_statistics hrows (List.replicate 5 .left ++ List.replicate 8 .right)
    refine ⟨rows, hrows, hshown, length_eq_iff_of_rows hshown hrows (by decide +kernel) ?_⟩
    intro e row hrow
    rw [lineFeeds_statisticsRow hrow, isLine_iff]
  · intro places h h'
    exact exists_statistics h h' _

/-- Two metrics, of which one has a comment that ends in a line feed. -/
def endedCommentHistory : List Step :=
  [.sample exampleKey .left 1, .verdict ⟨"S", "GET", "", "", "Perc50"⟩ true "slower\n"]

/-- The line feed at the end of the comment is cut, so there are three lines. -/
theorem one_line_per_bucket_iff_endedComment :
    ∃ text, (empty.run endedCommentHistory).report = "\n" ++ text ∧
      (Text.splitOn CodePoint.lineFeed text.toList).length = 3 := by
  obtain ⟨-, ⟨text, hreport, -, hlength⟩, -⟩ := one_line_per_bucket_iff endedCommentHistory
  have hentries : ∀ e ∈ (empty.run endedCommentHistory).entries, e.1.IsLine ∧ e.2.CommentsLine := by
    decide +kernel
  exact ⟨text, hreport, hlength.mpr hentries⟩

/-- A job with one test, whose name has a line feed in it. -/
def brokenTestJob : Job := [[("a\nb", [⟨"v1", [⟨[("P", 1)], .str "", []⟩], []⟩])]]

/-- The table after this job was added. -/
def brokenTestTable : Table := empty.run [.job brokenTestJob 0 .left]

/-- There is one bucket, and there are two lines behind that of the headers. -/
theorem brokenTest_has_line_too_many :
    brokenTestTable.size = 1 ∧
      brokenTestTable.report = "\n" ++
        ("E2E TEST  VERB  RESOURCE  SUBRESOURCE  PERCENTILE  MATCHED?  COMMENTS\n" ++
          "a\nb                                    P           False") ∧
      (Text.splitOn CodePoint.lineFeed brokenTestTable.comparison.toList).length = 3 := by
  have hsorted : brokenTestTable.sorted = brokenTestTable.entries := by
    refine List.mergeSort_of_pairwise ?_
    decide +kernel
  have htext : brokenTestTable.comparison =
      ("E2E TEST  VERB  RESOURCE  SUBRESOURCE  PERCENTILE  MATCHED?  COMMENTS\n" : Text) ++
        "a\nb                                    P           False" := by
    unfold comparison comparisonRows
    rw [hsorted]
    decide +kernel
  refine ⟨by decide +kernel, congrArg (("\n" : Text) ++ ·) htext, ?_⟩
  rw [htext]
  decide +kernel

end Table

end BenchCompare
