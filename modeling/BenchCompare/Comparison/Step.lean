import BenchCompare.Comparison.Ingest

/-!
# Histories of tables

  A table is changed by steps: samples, items and jobs are added, buckets are
  summarised, and verdicts are set.  A step may fail, and then leaves the table
  as far as it came.
-/

namespace BenchCompare

/-- A change of a table. -/
inductive Step
  /-- Adds one sample. -/
  | sample (key : MetricKey) (side : Side) (x : Float)
  /-- Adds one data item of a test. -/
  | item (test : Text) (item : DataItem) (min : Int) (side : Side)
  /-- Reads one data item of a test from a document and adds it. -/
  | report (test : Text) (document : Json) (min : Int) (side : Side)
  /-- Adds a job. -/
  | job (job : Job) (min : Int) (side : Side)
  /-- Summarises all buckets. -/
  | summarise
  /-- Sets the verdict on a metric. -/
  | verdict (key : MetricKey) (matched : Bool) (comments : Text)

/-- Why a step fails. -/
inductive StepFault
  /-- A document is no data item. -/
  | record (fault : RecordFault)
  /-- A request count has too many digits. -/
  | count (digits : Nat)
  deriving DecidableEq, Repr

/-- The wording of a fault. -/
def StepFault.message : StepFault → Text
  | record fault => fault.message
  | count digits => Decimal.tooLongMessage digits

/-- What a step leaves behind. -/
structure Outcome where
  /-- The table. -/
  table : Table
  /-- What was logged. -/
  log : List Log.Record
  /-- Why the step failed, if it did. -/
  fault : Option StepFault

/-- The outcome of an ingestion. -/
def Ingestion.outcome (i : Ingestion) : Outcome := ⟨i.table, i.log, i.stoppedBy.map .count⟩

/-- Takes one step. -/
def Table.step (t : Table) : Step → Outcome
  | .sample key side x => ⟨t.addSample key side x, [], none⟩
  | .item test item min side => (t.ingest min side [(test, item)]).outcome
  | .report test document min side =>
    match DataItem.decode document with
    | .ok item => (t.ingest min side [(test, item)]).outcome
    | .error fault => ⟨t, [], some (.record fault)⟩
  | .job job min side => (t.addJob min side job).outcome
  | .summarise => ⟨t.summarise, [], none⟩
  | .verdict key matched comments => ⟨t.setVerdict key matched comments, [], none⟩

/-- The table after some steps, whether they failed or not. -/
def Table.run (t : Table) (steps : List Step) : Table := steps.foldl (fun t s => (t.step s).table) t

@[simp] theorem Table.run_nil (t : Table) : t.run [] = t := rfl

@[simp] theorem Table.run_cons (t : Table) (s : Step) (steps : List Step) :
    t.run (s :: steps) = ((t.step s).table).run steps := rfl

theorem Table.run_append (t : Table) (first second : List Step) :
    t.run (first ++ second) = (t.run first).run second := by
  simp [run, List.foldl_append]

end BenchCompare
