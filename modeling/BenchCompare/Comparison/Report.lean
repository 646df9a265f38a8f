import BenchCompare.Comparison.Table
import BenchCompare.Csv.Writer
import BenchCompare.Layout.Cell
import BenchCompare.Layout.Grid
import BenchCompare.Log.Record

/-!
# Reports

  A table is shown in three ways, each with one row for every bucket in the
  order of the keys:

  - the *comparison*, with the verdict on each metric,
  - the *statistics*, with the number of samples and the summary of each side,
  - the *export*, comma-separated, with all of these.
-/

namespace BenchCompare

/-! ### Comparison -/

/-- The headers of the columns that name a metric. -/
def keyHeaders : List Text := ["E2E TEST", "VERB", "RESOURCE", "SUBRESOURCE", "PERCENTILE"]

/-- The text of a truth value. -/
def truthText (b : Bool) : Text := if b then "True" else "False"

/-- The row of a bucket in the comparison. -/
def comparisonRow (k : MetricKey) (b : Bucket) : List Text :=
  k.fields ++ [truthText b.matched, b.comments]

namespace Table

/-- The rows of the comparison. -/
def comparisonRows (t : Table) : List (List Text) := t.sorted.map fun (k, b) => comparisonRow k b

/-- The comparison: each metric with its verdict. -/
def comparison (t : Table) : Text :=
  Layout.render (keyHeaders ++ (["MATCHED?", "COMMENTS"] : List Text)) t.comparisonRows [] 0

/-- The report: the comparison behind an empty line. -/
def report (t : Table) : Text := "\n" ++ t.comparison

/-- The record that carries the report. -/
def reportRecord (t : Table) : Log.Record := ⟨.info, Log.reportName, t.report⟩

end Table

/-! ### Statistics -/

/-- The cells of one side of a bucket in the statistics. -/
def sideCells (places : Int) (b : Bucket) (side : Side) : Except Layout.CellError (List Text) := do
  let s := b.summary side
  return [toString (b.samples side).length, ← Layout.statisticText places s.mean,
    ← Layout.statisticText places s.deviation, ← Layout.statisticText places s.maximum]

/-- The row of a bucket in the statistics. -/
def statisticsRow (places : Int) (k : MetricKey) (b : Bucket) :
    Except Layout.CellError (List Text) := do
  return k.fields ++ (← sideCells places b .left) ++ (← sideCells places b .right)

namespace Table

/-- The rows of the statistics. -/
def statisticsRows (places : Int) (t : Table) : Except Layout.CellError (List (List Text)) :=
  t.sorted.mapM fun (k, b) => statisticsRow places k b

/-- The statistics: each metric with the summaries of its sides. -/
def statistics (places : Int) (t : Table) : Except Layout.CellError Text := do
  let sides : List Text := ["#L", "AVG L", "STDEV L", "MAX L", "#R", "AVG R", "STDEV R", "MAX R"]
  let alignments := List.replicate 5 Layout.Alignment.left ++ List.replicate 8 .right
  return Layout.render (keyHeaders ++ sides) (← t.statisticsRows places) alignments 0

end Table

/-! ### Export -/

/-- The names of the columns of the export. -/
def exportColumns : List Text :=
  ["test_name", "verb", "resource", "subresource", "percentile", "n_left", "avg_left", "stdev_left",
    "max_left", "n_right", "avg_right", "stdev_right", "max_right", "matched", "comments"]

/-- The fields of one side of a bucket in the export. -/
def sideFields (b : Bucket) (side : Side) : List Text :=
  let s := b.summary side
  [toString (b.samples side).length, Layout.exportedText s.mean, Layout.exportedText s.deviation,
    Layout.exportedText s.maximum]

/-- The record of a bucket in the export. -/
def exportRow (k : MetricKey) (b : Bucket) : List Text :=
  k.fields ++ sideFields b .left ++ sideFields b .right ++ [truthText b.matched, b.comments]

namespace Table

/-- The records of the export, the names of the columns first. -/
def exportRows (t : Table) : List (List Text) :=
  exportColumns :: t.sorted.map fun (k, b) => exportRow k b

/-- The export. -/
def exported (t : Table) : Text :=
  ⟨Csv.write (t.exportRows.map fun row => row.map Text.toList)⟩

end Table

end BenchCompare
