import BenchCompare.Json.Basic

/-!
# What benchmark jobs report

A job is a list of runs.  In each run every test reports groups of data items, and a data item holds one
value for each percentile of one metric:

  job → run → test → group → item → percentile

Labels say which metric an item measures.
-/

namespace BenchCompare

/-- One measured metric. -/
structure DataItem where
  /-- The value of each percentile, in the order reported. -/
  values : List (Text × Float)
  /-- The unit of the values, in whatever form it was reported. -/
  unit : Json
  /-- The labels, in the order reported. -/
  labels : List (Text × Text)

/-- The data items that a test reports together. -/
structure PerfData where
  /-- The version of the format. -/
  version : Text
  /-- The items. -/
  items : List DataItem
  /-- Labels of the whole group. -/
  labels : List (Text × Text)

/-- One run of a job: the groups that each test reported, in the order of the tests. -/
abbrev Run := List (Text × List PerfData)

/-- One benchmark job: its runs, in order. -/
abbrev Job := List Run

/-- A label of an item; a missing one is empty. -/
def DataItem.label (item : DataItem) (name : Text) : Text := (item.labels.lookup name).getD ""

namespace Run

/-- The items of a run with their tests, in the order reported. -/
def items (run : Run) : List (Text × DataItem) :=
  run.flatMap fun (test, groups) => groups.flatMap fun group => group.items.map fun item => (test, item)

end Run

/-- The items of a job with their tests, in the order reported. -/
def Job.items (job : Job) : List (Text × DataItem) := job.flatMap Run.items

@[simp] theorem Job.items_nil : Job.items [] = [] := rfl

@[simp] theorem Job.items_cons (run : Run) (job : Job) :
    Job.items (run :: job) = run.items ++ Job.items job := by
  simp [Job.items]

end BenchCompare
