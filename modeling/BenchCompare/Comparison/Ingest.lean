import BenchCompare.Comparison.Table
import BenchCompare.Decimal.Numeral
import BenchCompare.Log.Record
import BenchCompare.Run.Decode
import BenchCompare.Text.Quoted

/-!
# Adding data items to a table

  A data item adds one sample for each of its percentiles, on one side.  Its
  `Count` label says how many requests stand behind it: items with too few, or
  with a label that is no 64-bit integer, are dropped.  A label with more digits
  than an integer may have stops the whole ingestion; what was added before it
  stays in the table.
-/

namespace BenchCompare

/-! ### Request counts -/

/-- What a label says about a number of requests. -/
inductive Count
  /-- Nothing: the label is missing or empty. -/
  | unknown
  /-- Something that is no signed 64-bit integer. -/
  | malformed
  /-- A number of requests. -/
  | number (n : Int)
  /-- An integer with too many digits to be read. -/
  | tooLong (digits : Nat)
  deriving DecidableEq, Repr

/-- What a label says: a sign and ASCII digits, and nothing else, make a number. -/
def Count.ofLabel (label : Text) : Count :=
  if label.isEmpty then .unknown
  else
    match label.encode with
    | .error _ => .malformed
    | .ok numeral =>
      match Decimal.readPlainInteger numeral.toList with
      | .ok n => if -0x8000000000000000 ≤ n ∧ n < 0x8000000000000000 then .number n else .malformed
      | .error .malformed => .malformed
      | .error (.tooLong digits) => .tooLong digits

/-- What becomes of an item. -/
inductive Fate
  /-- Its samples are added. -/
  | kept
  /-- It is left out. -/
  | dropped
  /-- It stops the ingestion: its count has too many digits. -/
  | refused (digits : Nat)
  deriving DecidableEq, Repr

/-- What becomes of an item with this count when counts below `min` are too low. -/
def Count.fate (min : Int) : Count → Fate
  | unknown => .kept
  | malformed => .dropped
  | number n => if n < min then .dropped else .kept
  | tooLong digits => .refused digits

namespace DataItem

/-- What becomes of an item when counts below `min` are too low. -/
def fate (min : Int) (item : DataItem) : Fate := (Count.ofLabel (item.label "Count")).fate min

/-! ### Keys of items -/

/-- The verb of an item.  Pod startup is measured without requests and has a verb of its own. -/
def verb (item : DataItem) : Text :=
  if item.label "Metric" = "pod_startup" then "Pod-Startup" else item.label "Verb"

/-- The key of a percentile of an item of a test. -/
def key (test : Text) (item : DataItem) (percentile : Text) : MetricKey :=
  ⟨test, item.verb, item.label "Resource", item.label "Subresource", percentile⟩

/-- The samples of an item of a test with their keys. -/
def samples (test : Text) (item : DataItem) : List (MetricKey × Float) :=
  item.values.map fun (percentile, x) => (item.key test percentile, x)

/-- The record of an item that was left out.  It shows the labels as they were reported. -/
def droppedRecord (test : Text) (min : Int) (item : DataItem) : Log.Record :=
  let verb := item.label "Verb"
  let resource := item.label "Resource"
  let count := Text.quoted (item.label "Count")
  ⟨.debug, Log.rootName, "Dropping " ++ test ++ " " ++ verb ++ "/" ++ resource ++ ": request count " ++ count ++
    s!" below {min}"⟩

end DataItem

/-! ### Ingestion -/

/-- Adds samples on a side, in order. -/
def Table.addSamples (side : Side) (xs : List (MetricKey × Float)) (t : Table) : Table :=
  xs.foldl (fun t (k, x) => t.addSample k side x) t

/-- What an ingestion leaves behind. -/
structure Ingestion where
  /-- The table with everything that was added. -/
  table : Table
  /-- The records of the items that were left out. -/
  log : List Log.Record
  /-- The number of digits of the count that stopped it, if one did. -/
  stoppedBy : Option Nat

/-- Adds the items of a side, in order, up to one that is refused. -/
def Table.ingest (min : Int) (side : Side) : List (Text × DataItem) → Table → Ingestion
  | [], t => ⟨t, [], none⟩
  | (test, item) :: rest, t =>
    match item.fate min with
    | .kept => ingest min side rest (t.addSamples side (item.samples test))
    | .dropped =>
      let later := ingest min side rest t
      { later with log := item.droppedRecord test min :: later.log }
    -- Samples of earlier items stay.
    | .refused digits => ⟨t, [], some digits⟩

/-- Adds all items of a job. -/
def Table.addJob (min : Int) (side : Side) (job : Job) (t : Table) : Ingestion :=
  t.ingest min side (Job.items job)

/-- The record of a comparison that was made. -/
def flattenedRecord (left right : Job) (t : Table) : Log.Record :=
  ⟨.debug, Log.rootName,
    s!"Flattened {left.length} left runs and {right.length} right runs into {t.size} metrics"⟩

/-- The table of two jobs, the left one added first.  Nothing is summarised yet. -/
def Table.ofJobs (left right : Job) (min : Int) : Ingestion :=
  let first := Table.empty.addJob min .left left
  -- The right job is not looked at if the left one has stopped the ingestion.
  match first.stoppedBy with
  | some _ => first
  | none =>
    let second := first.table.addJob min .right right
    let log := first.log ++ second.log
    match second.stoppedBy with
    | some _ => { second with log := log }
    | none => { second with log := log ++ [flattenedRecord left right second.table] }

end BenchCompare
