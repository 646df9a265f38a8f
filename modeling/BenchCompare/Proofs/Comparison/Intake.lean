import BenchCompare.Proofs.Comparison.Count
import BenchCompare.Proofs.Comparison.View
import Mathlib.Data.List.TakeWhile

/-! # What an ingestion takes in

  An ingestion is a plain addition of samples: those of the kept items, up to
  the first item whose count cannot be read.  Whether there is such an item does
  not depend on the threshold.

  * `intake min items`: the samples that are taken in.
  * `refusalOf items`: the number of digits of the count that stops the
    ingestion, if one does.
-/

namespace BenchCompare

/-! ### Items that are taken in -/

/-- The number of digits of the first count that cannot be read. -/
def refusalOf (items : List (Text × DataItem)) : Option Nat :=
  items.findSome? fun e => e.2.refusal?

/-- The samples of the kept items, up to the first item whose count cannot be read. -/
def intake (min : Int) (items : List (Text × DataItem)) : List (MetricKey × Float) :=
  (items.takeWhile fun e => e.2.refusal?.isNone).flatMap fun (test, item) =>
    if item.IsKept min then item.samples test else []

theorem refusalOf_cons (test : Text) (item : DataItem) (rest : List (Text × DataItem)) :
    refusalOf ((test, item) :: rest) = item.refusal?.or (refusalOf rest) := by
  unfold refusalOf
  rw [List.findSome?_cons]
  cases item.refusal? <;> simp

theorem refusalOf_eq_none_iff (items : List (Text × DataItem)) :
    refusalOf items = none ↔ ∀ e ∈ items, e.2.refusal? = none := by
  simp [refusalOf]

theorem intake_cons_of_some {item : DataItem} {d : Nat} (h : item.refusal? = some d) (min : Int)
    (test : Text) (rest : List (Text × DataItem)) : intake min ((test, item) :: rest) = [] := by
  simp [intake, h]

theorem intake_cons_of_none {item : DataItem} (h : item.refusal? = none) (min : Int)
    (test : Text) (rest : List (Text × DataItem)) :
    intake min ((test, item) :: rest) =
      (if item.IsKept min then item.samples test else []) ++ intake min rest := by
  simp [intake, h]

/-- If every count can be read, no item is out of reach. -/
theorem intake_eq_flatMap {items : List (Text × DataItem)} (h : refusalOf items = none)
    (min : Int) :
    intake min items = items.flatMap fun (test, item) =>
      if item.IsKept min then item.samples test else [] := by
  unfold intake
  rw [List.takeWhile_eq_self_iff.mpr]
  intro e he
  simp [(refusalOf_eq_none_iff items).mp h e he]

/-- What stands behind items whose counts can all be read is taken in after them. -/
theorem intake_append {before : List (Text × DataItem)} (h : refusalOf before = none) (min : Int)
    (after : List (Text × DataItem)) :
    intake min (before ++ after) = intake min before ++ intake min after := by
  induction before with
  | nil => rfl
  | cons e rest ih =>
    obtain ⟨test, item⟩ := e
    rw [refusalOf_cons, Option.or_eq_none_iff] at h
    rw [List.cons_append, intake_cons_of_none h.1, intake_cons_of_none h.1, ih h.2,
      List.append_assoc]

theorem refusalOf_append (before after : List (Text × DataItem)) :
    refusalOf (before ++ after) = (refusalOf before).or (refusalOf after) := by
  simp [refusalOf, List.findSome?_append]

/-! ### Ingestions -/

namespace Table

/-- What is left of an ingestion is the table with the samples that were taken in, and the refusal. -/
theorem ingest_eq (min : Int) (side : Side) (items : List (Text × DataItem)) (t : Table) :
    (t.ingest min side items).table = t.addSamples side (intake min items) ∧
      (t.ingest min side items).stoppedBy = refusalOf items := by
  induction items generalizing t with
  | nil => exact ⟨rfl, rfl⟩
  | cons e rest ih =>
    obtain ⟨test, item⟩ := e
    rw [refusalOf_cons]
    cases hr : item.refusal? with
    | some d =>
      have hfate : item.fate min = .refused d := (item.fate_eq_refused_iff min d).mpr hr
      rw [intake_cons_of_some hr, ingest, hfate]
      exact ⟨rfl, rfl⟩
    | none =>
      have hfate := DataItem.fate_eq_of_refusal?_eq_none hr min
      rw [intake_cons_of_none hr, ingest]
      by_cases hk : item.IsKept min
      · rw [if_pos hk] at hfate ⊢
        rw [hfate, addSamples_append]
        exact ih _
      · rw [if_neg hk] at hfate ⊢
        rw [hfate, List.nil_append]
        exact ih t

theorem table_addJob (min : Int) (side : Side) (job : Job) (t : Table) :
    (t.addJob min side job).table = t.addSamples side (intake min (Job.items job)) :=
  (ingest_eq min side (Job.items job) t).1

theorem stoppedBy_addJob (min : Int) (side : Side) (job : Job) (t : Table) :
    (t.addJob min side job).stoppedBy = refusalOf (Job.items job) :=
  (ingest_eq min side (Job.items job) t).2

/-- The right job is taken in only if the left one was taken in as a whole. -/
theorem table_ofJobs (left right : Job) (min : Int) :
    (ofJobs left right min).table =
      (empty.addSamples .left (intake min left.items)).addSamples .right
        (if refusalOf left.items = none then intake min right.items else []) := by
  unfold ofJobs
  dsimp only
  rw [stoppedBy_addJob, table_addJob]
  cases hl : refusalOf left.items with
  | some d => simp [table_addJob]
  | none =>
    dsimp only
    rw [if_pos rfl, ← table_addJob min .left, ← table_addJob min .right]
    split <;> rfl

theorem stoppedBy_ofJobs (left right : Job) (min : Int) :
    (ofJobs left right min).stoppedBy = (refusalOf left.items).or (refusalOf right.items) := by
  unfold ofJobs
  dsimp only
  rw [stoppedBy_addJob]
  cases hl : refusalOf left.items with
  | some d =>
    dsimp only
    rw [stoppedBy_addJob, hl, Option.some_or]
  | none =>
    dsimp only
    rw [Option.none_or, ← stoppedBy_addJob min .right]
    split <;> rfl

end Table

end BenchCompare
