import BenchCompare.Comparison.Key
import BenchCompare.Sample.Summary

/-!
# Comparison tables

  A table has one bucket for each metric that was measured on either side of a
  comparison.  A bucket keeps the samples of the two sides apart, in the order
  in which they arrived, with

  - the verdict of a comparison policy (`matched` and `comments`),
  - the summaries of the two sides, which are those of the last time that the
    table was summarised and say nothing about samples that came later.

  Entries stand in the order in which their keys were first seen.  Every change
  of a single bucket goes through `Table.update`.
-/

namespace BenchCompare

/-! ### Sides -/

/-- The two jobs of a comparison. -/
inductive Side
  /-- The baseline. -/
  | left
  /-- The job that is compared with the baseline. -/
  | right
  deriving DecidableEq, Repr

/-- The other job. -/
def Side.other : Side → Side
  | left => right
  | right => left

/-! ### Buckets -/

/-- The samples of one metric and what is known about them. -/
structure Bucket where
  /-- The samples of the left job. -/
  left : List Float
  /-- The samples of the right job. -/
  right : List Float
  /-- Whether a comparison policy found the sides to match. -/
  matched : Bool
  /-- What a comparison policy had to say. -/
  comments : Text
  /-- The left side as it was last summarised. -/
  leftSummary : Summary
  /-- The right side as it was last summarised. -/
  rightSummary : Summary

namespace Bucket

/-- A bucket without samples, verdict and summaries. -/
def empty : Bucket := ⟨[], [], false, "", .empty, .empty⟩

/-- The samples of a side. -/
def samples (b : Bucket) : Side → List Float
  | .left => b.left
  | .right => b.right

/-- The summary of a side. -/
def summary (b : Bucket) : Side → Summary
  | .left => b.leftSummary
  | .right => b.rightSummary

/-- The bucket with one more sample on a side. -/
def push (side : Side) (x : Float) (b : Bucket) : Bucket :=
  match side with
  | .left => { b with left := b.left ++ [x] }
  | .right => { b with right := b.right ++ [x] }

/-- The bucket with a verdict. -/
def judge (matched : Bool) (comments : Text) (b : Bucket) : Bucket :=
  { b with matched := matched, comments := comments }

/-- The bucket with both sides summarised. -/
def summarise (b : Bucket) : Bucket :=
  { b with leftSummary := .ofSample b.left, rightSummary := .ofSample b.right }

@[simp] theorem samples_push (b : Bucket) (side : Side) (x : Float) :
    (b.push side x).samples side = b.samples side ++ [x] := by cases side <;> rfl

@[simp] theorem samples_push_other (b : Bucket) (side : Side) (x : Float) :
    (b.push side x).samples side.other = b.samples side.other := by cases side <;> rfl

@[simp] theorem samples_judge (b : Bucket) (side : Side) (m : Bool) (c : Text) :
    (b.judge m c).samples side = b.samples side := by cases side <;> rfl

@[simp] theorem samples_summarise (b : Bucket) (side : Side) :
    b.summarise.samples side = b.samples side := by cases side <;> rfl

@[simp] theorem summary_push (b : Bucket) (side other : Side) (x : Float) :
    (b.push side x).summary other = b.summary other := by cases side <;> cases other <;> rfl

@[simp] theorem summary_judge (b : Bucket) (side : Side) (m : Bool) (c : Text) :
    (b.judge m c).summary side = b.summary side := by cases side <;> rfl

@[simp] theorem summary_summarise (b : Bucket) (side : Side) :
    b.summarise.summary side = .ofSample (b.samples side) := by cases side <;> rfl

end Bucket

/-! ### Tables -/

/-- Applies `f` to the bucket of a key, which is an empty one at the end if the key is new. -/
def updateEntry (k : MetricKey) (f : Bucket → Bucket) :
    List (MetricKey × Bucket) → List (MetricKey × Bucket)
  | [] => [(k, f .empty)]
  | (k', b) :: rest => if k' = k then (k', f b) :: rest else (k', b) :: updateEntry k f rest

/-- A comparison table. -/
structure Table where
  /-- The buckets with their keys, in the order in which the keys were first seen. -/
  entries : List (MetricKey × Bucket)

namespace Table

/-- The table without buckets. -/
def empty : Table := ⟨[]⟩

/-- The number of buckets. -/
def size (t : Table) : Nat := t.entries.length

/-- The keys, in the order in which they were first seen. -/
def keys (t : Table) : List MetricKey := t.entries.map (·.1)

/-- The bucket of a key. -/
def get? (t : Table) (k : MetricKey) : Option Bucket := t.entries.lookup k

/-- The bucket of a key, an empty one if the key is not there. -/
def getD (t : Table) (k : MetricKey) : Bucket := (t.get? k).getD .empty

/-- Applies a change to the bucket of a key, which is made if it is not there. -/
def update (k : MetricKey) (f : Bucket → Bucket) (t : Table) : Table := ⟨updateEntry k f t.entries⟩

/-- Adds one sample.  What is not a number is ignored, and makes no bucket. -/
def addSample (k : MetricKey) (side : Side) (x : Float) (t : Table) : Table :=
  if x.isNaN then t else t.update k (.push side x)

/-- Sets the verdict on a metric, whether it has samples or not. -/
def setVerdict (k : MetricKey) (matched : Bool) (comments : Text) (t : Table) : Table :=
  t.update k (.judge matched comments)

/-- Summarises both sides of every bucket. -/
def summarise (t : Table) : Table := ⟨t.entries.map fun (k, b) => (k, b.summarise)⟩

/-- The entries in increasing order of their keys. -/
def sorted (t : Table) : List (MetricKey × Bucket) := sortByKey t.entries

/-! ### What an update does -/

@[simp] theorem keys_empty : empty.keys = [] := rfl

@[simp] theorem get?_empty (k : MetricKey) : empty.get? k = none := rfl

theorem lookup_updateEntry (k k' : MetricKey) (f : Bucket → Bucket)
    (es : List (MetricKey × Bucket)) :
    (updateEntry k f es).lookup k' =
      if k' = k then some (f ((es.lookup k).getD .empty)) else es.lookup k' := by
  induction es with
  | nil =>
    by_cases h : k' = k
    · simp [updateEntry, h]
    · simp [updateEntry, List.lookup_cons, h, beq_false_of_ne h]
  | cons e es ih =>
    obtain ⟨k₁, b⟩ := e
    by_cases h₁ : k₁ = k
    · subst h₁
      by_cases h : k' = k₁
      · simp [updateEntry, h]
      · simp [updateEntry, List.lookup_cons, h, beq_false_of_ne h]
    · have h₂ : (k == k₁) = false := beq_false_of_ne fun h => h₁ h.symm
      by_cases h : k' = k₁
      · simp [updateEntry, h₁, h]
      · simp [updateEntry, List.lookup_cons, h₁, h₂, beq_false_of_ne h, ih]

theorem get?_update (k k' : MetricKey) (f : Bucket → Bucket) (t : Table) :
    (t.update k f).get? k' = if k' = k then some (f (t.getD k)) else t.get? k' :=
  lookup_updateEntry k k' f t.entries

@[simp] theorem get?_update_self (k : MetricKey) (f : Bucket → Bucket) (t : Table) :
    (t.update k f).get? k = some (f (t.getD k)) := by simp [get?_update]

theorem get?_update_of_ne {k k' : MetricKey} (h : k' ≠ k) (f : Bucket → Bucket) (t : Table) :
    (t.update k f).get? k' = t.get? k' := by simp [get?_update, h]

theorem map_fst_updateEntry (k : MetricKey) (f : Bucket → Bucket) (es : List (MetricKey × Bucket)) :
    (updateEntry k f es).map (·.1) =
      if k ∈ es.map (·.1) then es.map (·.1) else es.map (·.1) ++ [k] := by
  induction es with
  | nil => simp [updateEntry]
  | cons e es ih =>
    obtain ⟨k₁, b⟩ := e
    by_cases h₁ : k₁ = k
    · simp [updateEntry, h₁]
    · have h₂ : k ≠ k₁ := fun h => h₁ h.symm
      simp only [updateEntry, h₁, if_false, List.map_cons, ih, List.mem_cons, h₂, false_or]
      split <;> simp

/-- An update adds its key at the end, unless it is there. -/
theorem keys_update (k : MetricKey) (f : Bucket → Bucket) (t : Table) :
    (t.update k f).keys = if k ∈ t.keys then t.keys else t.keys ++ [k] :=
  map_fst_updateEntry k f t.entries

@[simp] theorem keys_summarise (t : Table) : t.summarise.keys = t.keys := by
  simp [keys, summarise, Function.comp_def]

end Table

end BenchCompare
