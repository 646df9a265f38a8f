import BenchCompare.Proofs.Comparison.Completion
import BenchCompare.Proofs.Comparison.Delivery

/-! # Jobs that are added in parts

  The runs of two jobs may be added in any interleaving.  A schedule lists parts
  of jobs with their sides in the order in which they are added; what it adds on
  a side is all that its table depends on.

  * `Schedule.runs side s`: the runs that `s` adds on a side, in order.
  * `Table.follow min s t`: the table with all parts added.
-/

namespace BenchCompare

/-- Parts of jobs with their sides, in the order in which they are added. -/
abbrev Schedule := List (Side × Job)

/-- The runs that are added on a side, in order. -/
def Schedule.runs (side : Side) (s : Schedule) : Job :=
  s.flatMap fun part => if part.1 = side then part.2 else []

/-- The table with all parts added; there is none if one of them is stopped. -/
def Table.follow (min : Int) : Schedule → Table → Option Table
  | [], t => some t
  | (side, job) :: rest, t =>
    match (t.addJob min side job).stoppedBy with
    | none => follow min rest (t.addJob min side job).table
    | some _ => none

/-! ### Parts of jobs -/

@[simp] theorem Job.delivered_nil (min : Int) (k : MetricKey) : Job.delivered min k [] = [] := rfl

theorem Job.delivered_append (min : Int) (k : MetricKey) (job job' : Job) :
    Job.delivered min k (job ++ job') = job.delivered min k ++ job'.delivered min k :=
  List.flatMap_append

theorem Job.delivered_append_ne_nil_iff (min : Int) (k : MetricKey) (job job' : Job) :
    Job.delivered min k (job ++ job') ≠ [] ↔
      job.delivered min k ≠ [] ∨ job'.delivered min k ≠ [] := by
  rw [delivered_append, ne_eq, List.append_eq_nil_iff, not_and_or]

theorem Job.legible_append (job job' : Job) :
    Job.Legible (job ++ job') ↔ job.Legible ∧ job'.Legible :=
  List.forall_mem_append

namespace Schedule

@[simp] theorem runs_nil (side : Side) : runs side [] = [] := rfl

theorem runs_cons_self (side : Side) (job : Job) (s : Schedule) :
    runs side ((side, job) :: s) = job ++ s.runs side := by
  simp [runs]

theorem runs_cons_of_ne {side side' : Side} (h : side' ≠ side) (job : Job) (s : Schedule) :
    runs side ((side', job) :: s) = s.runs side := by
  simp [runs, h]

end Schedule

namespace Bucket

theorem append_append (side : Side) (xs ys : List Float) (b : Bucket) :
    (b.append side xs).append side ys = b.append side (xs ++ ys) := by
  cases side <;> simp [append]

end Bucket

/-! ### Following a schedule -/

namespace Table

theorem follow_cons_eq_some_iff {min : Int} {side : Side} {job : Job} {s : Schedule} {t t' : Table} :
    follow min ((side, job) :: s) t = some t' ↔
      refusalOf job.items = none ∧
        follow min s (t.addSamples side (intake min job.items)) = some t' := by
  rw [follow, stoppedBy_addJob, table_addJob]
  cases refusalOf job.items <;> simp

/-- A schedule can be followed exactly if all counts are legible. -/
theorem isSome_follow_iff (min : Int) (s : Schedule) (t : Table) :
    (follow min s t).isSome ↔ (s.runs .left).Legible ∧ (s.runs .right).Legible := by
  induction s generalizing t with
  | nil => simp [follow, Job.Legible]
  | cons part s ih =>
    obtain ⟨side, job⟩ := part
    have hcons : (follow min ((side, job) :: s) t).isSome ↔
        job.Legible ∧ (Schedule.runs .left s).Legible ∧ (Schedule.runs .right s).Legible := by
      rw [Option.isSome_iff_exists, ← ih (t.addSamples side (intake min job.items)),
        Option.isSome_iff_exists, Job.legible_iff]
      simp only [follow_cons_eq_some_iff, exists_and_left]
    rw [hcons]
    cases side with
    | left =>
      rw [Schedule.runs_cons_self, Schedule.runs_cons_of_ne (by decide), Job.legible_append, and_assoc]
    | right =>
      rw [Schedule.runs_cons_self, Schedule.runs_cons_of_ne (by decide), Job.legible_append, and_left_comm]

/-- Each bucket gets what the schedule delivers on the two sides, in whatever order. -/
theorem getD_follow {min : Int} {s : Schedule} {t t' : Table} (h : follow min s t = some t')
    (k : MetricKey) :
    t'.getD k = ((t.getD k).append .left ((s.runs .left).delivered min k)).append .right
      ((s.runs .right).delivered min k) := by
  induction s generalizing t with
  | nil =>
    cases h
    simp
  | cons part s ih =>
    obtain ⟨side, job⟩ := part
    obtain ⟨hlegible, hrest⟩ := follow_cons_eq_some_iff.mp h
    rw [ih hrest, getD_addSamples, samplesFor_intake hlegible]
    cases side with
    | left =>
      rw [Schedule.runs_cons_self, Schedule.runs_cons_of_ne (by decide), Job.delivered_append, Bucket.append_append]
    | right =>
      rw [Schedule.runs_cons_self, Schedule.runs_cons_of_ne (by decide), Job.delivered_append, ← Bucket.append_append]
      rfl

/-- A key is new exactly if something is delivered for it. -/
theorem mem_keys_follow {min : Int} {s : Schedule} {t t' : Table} (h : follow min s t = some t')
    (k : MetricKey) :
    k ∈ t'.keys ↔ k ∈ t.keys ∨ (s.runs .left).delivered min k ≠ [] ∨
      (s.runs .right).delivered min k ≠ [] := by
  induction s generalizing t with
  | nil =>
    cases h
    simp
  | cons part s ih =>
    obtain ⟨side, job⟩ := part
    obtain ⟨hlegible, hrest⟩ := follow_cons_eq_some_iff.mp h
    rw [ih hrest, mem_keys_addSamples, samplesFor_intake hlegible]
    cases side with
    | left =>
      rw [Schedule.runs_cons_self, Schedule.runs_cons_of_ne (by decide), Job.delivered_append_ne_nil_iff]
      tauto
    | right =>
      rw [Schedule.runs_cons_self, Schedule.runs_cons_of_ne (by decide), Job.delivered_append_ne_nil_iff]
      tauto

theorem nodup_keys_follow {min : Int} {s : Schedule} {t t' : Table} (h : follow min s t = some t')
    (hkeys : t.keys.Nodup) : t'.keys.Nodup := by
  induction s generalizing t with
  | nil =>
    cases h
    exact hkeys
  | cons part s ih =>
    obtain ⟨side, job⟩ := part
    obtain ⟨-, hrest⟩ := follow_cons_eq_some_iff.mp h
    exact ih hrest (nodup_keys_addSamples side _ hkeys)

theorem completes_ofJobs_iff (left right : Job) (min : Int) :
    (ofJobs left right min).stoppedBy = none ↔ left.Legible ∧ right.Legible := by
  rw [stoppedBy_ofJobs, Option.or_eq_none_iff, Job.legible_iff, Job.legible_iff]

/-- The table of two jobs follows the left one and then the right one. -/
theorem follow_ofJobs {left right : Job} {min : Int}
    (h : (ofJobs left right min).stoppedBy = none) :
    follow min [(.left, left), (.right, right)] empty = some (ofJobs left right min).table := by
  rw [stoppedBy_ofJobs, Option.or_eq_none_iff] at h
  rw [follow_cons_eq_some_iff, follow_cons_eq_some_iff, table_ofJobs, if_pos h.1]
  exact ⟨h.1, h.2, rfl⟩

end Table

end BenchCompare
