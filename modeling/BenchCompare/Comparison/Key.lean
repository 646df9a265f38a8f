import BenchCompare.Text.Basic

/-!
# Metric keys

A metric is identified by five texts.  Keys are ordered field by field, each field by code points, and
this order is the order of every report.
-/

namespace BenchCompare

/-- What identifies a metric. -/
structure MetricKey where
  /-- The test that measured it. -/
  test : Text
  /-- The verb of the request, such as `LIST`. -/
  verb : Text
  /-- The resource of the request, such as `pods`. -/
  resource : Text
  /-- The subresource of the request, such as `status`; mostly empty. -/
  subresource : Text
  /-- The percentile, such as `Perc90`. -/
  percentile : Text
  deriving DecidableEq, Repr

namespace MetricKey

/-- The five texts, the most significant first. -/
def fields (k : MetricKey) : List Text := [k.test, k.verb, k.resource, k.subresource, k.percentile]

/-- Keys are ordered as their lists of fields are. -/
instance : LT MetricKey := ⟨fun a b => a.fields < b.fields⟩

/-- A key is at most another one if that is not below it. -/
instance : LE MetricKey := ⟨fun a b => ¬ b < a⟩

instance (a b : MetricKey) : Decidable (a < b) := inferInstanceAs (Decidable (a.fields < b.fields))

instance (a b : MetricKey) : Decidable (a ≤ b) := inferInstanceAs (Decidable (¬ b < a))

theorem fields_injective {a b : MetricKey} (h : a.fields = b.fields) : a = b := by
  cases a; cases b; simp_all [fields]

end MetricKey

/-! ## Sorting by key -/

/-- Entries in increasing order of their keys, entries of one key in the order they came. -/
def sortByKey {α : Type} (entries : List (MetricKey × α)) : List (MetricKey × α) :=
  entries.mergeSort fun a b => decide (a.1 ≤ b.1)

/-- Sorted entries with those of one key gathered under it. -/
def groupSorted {α : Type} : List (MetricKey × α) → List (MetricKey × List α)
  | [] => []
  | (k, x) :: rest =>
    match groupSorted rest with
    | (k', xs) :: groups => if k = k' then (k, x :: xs) :: groups else (k, [x]) :: (k', xs) :: groups
    | [] => [(k, [x])]

/-- The distinct keys of a list in increasing order, each with the positions where it stands. -/
def MetricKey.positions (keys : List MetricKey) : List (MetricKey × List Nat) :=
  groupSorted (sortByKey keys.zipIdx)

end BenchCompare
