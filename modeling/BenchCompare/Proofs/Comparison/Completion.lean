import BenchCompare.Proofs.Comparison.Intake

/-! # Which ingestions complete

  One thing alone stops an ingestion: a count that is a numeral with too many
  digits.  It does so whether the number is a 64-bit integer or not, since the
  numeral is read before its size is looked at.  Any other count that is no
  64-bit integer, or is too low, costs the samples of its own item only.

  Main statement: `completes_iff_legible`, with the job on which an ingestion
  does not complete behind it.
-/

namespace BenchCompare

/-! ### Legible counts -/

/-- The count of an item is no numeral with too many digits. -/
def DataItem.Legible (item : DataItem) : Prop := ∀ d, ¬ Overlong (item.label "Count") d

/-- All counts of a job are legible. -/
def Job.Legible (job : Job) : Prop :=
  ∀ run ∈ job, ∀ entry ∈ run, ∀ group ∈ entry.2, ∀ item ∈ group.items, item.Legible

theorem DataItem.legible_iff (item : DataItem) : item.Legible ↔ item.refusal? = none := by
  unfold Legible
  rw [Option.eq_none_iff_forall_ne_some]
  simp only [ne_eq, refusal?_eq_some_iff]

theorem refusalOf_eq_none_iff_legible (items : List (Text × DataItem)) :
    refusalOf items = none ↔ ∀ e ∈ items, e.2.Legible := by
  simp only [refusalOf_eq_none_iff, DataItem.legible_iff]

theorem Job.mem_items {job : Job} {e : Text × DataItem} :
    e ∈ job.items ↔ ∃ run ∈ job, ∃ entry ∈ run, ∃ group ∈ entry.2, ∃ item ∈ group.items,
      e = (entry.1, item) := by
  simp only [Job.items, Run.items, List.mem_flatMap, List.mem_map, eq_comm]

theorem Job.legible_iff (job : Job) : job.Legible ↔ refusalOf job.items = none := by
  rw [refusalOf_eq_none_iff_legible]
  constructor
  · intro h e he
    obtain ⟨run, hrun, entry, hentry, group, hgroup, item, hitem, rfl⟩ := Job.mem_items.mp he
    exact h run hrun entry hentry group hgroup item hitem
  · intro h run hrun entry hentry group hgroup item hitem
    exact h (entry.1, item)
      (Job.mem_items.mpr ⟨run, hrun, entry, hentry, group, hgroup, item, hitem, rfl⟩)

/-! ### One item among others -/

namespace Table

/-- An item that is left out might as well not be there. -/
theorem ingest_of_not_isKept {min : Int} {item : DataItem} (hlegible : item.Legible)
    (hout : ¬ item.IsKept min) (side : Side) (before : List (Text × DataItem)) (test : Text)
    (after : List (Text × DataItem)) (t : Table) :
    (t.ingest min side (before ++ (test, item) :: after)).table =
        (t.ingest min side (before ++ after)).table ∧
      (t.ingest min side (before ++ (test, item) :: after)).stoppedBy =
        (t.ingest min side (before ++ after)).stoppedBy := by
  have hitem : item.refusal? = none := item.legible_iff.mp hlegible
  rw [(ingest_eq _ _ _ _).1, (ingest_eq _ _ _ _).1, (ingest_eq _ _ _ _).2, (ingest_eq _ _ _ _).2]
  constructor
  · induction before generalizing t with
    | nil =>
      rw [List.nil_append, intake_cons_of_none hitem, if_neg hout, List.nil_append, List.nil_append]
    | cons e rest ih =>
      obtain ⟨test', item'⟩ := e
      rw [List.cons_append, List.cons_append]
      cases hr : item'.refusal? with
      | some d => rw [intake_cons_of_some hr, intake_cons_of_some hr]
      | none =>
        rw [intake_cons_of_none hr, intake_cons_of_none hr, addSamples_append, addSamples_append]
        exact ih _
  · rw [refusalOf_append, refusalOf_append, refusalOf_cons, hitem, Option.none_or]

/-- The first illegible count ends the ingestion with what was taken in before it. -/
theorem ingest_of_overlong {before : List (Text × DataItem)} (hbefore : ∀ e ∈ before, e.2.Legible)
    {item : DataItem} {d : Nat} (hitem : Overlong (item.label "Count") d) (min : Int) (side : Side)
    (test : Text) (after : List (Text × DataItem)) (t : Table) :
    (t.ingest min side (before ++ (test, item) :: after)).table =
        (t.ingest min side before).table ∧
      (t.ingest min side (before ++ (test, item) :: after)).stoppedBy = some d := by
  have hnone : refusalOf before = none := (refusalOf_eq_none_iff_legible before).mpr hbefore
  have hsome : item.refusal? = some d := (item.refusal?_eq_some_iff d).mpr hitem
  rw [(ingest_eq _ _ _ _).1, (ingest_eq _ _ _ _).1, (ingest_eq _ _ _ _).2]
  constructor
  · rw [intake_append hnone, intake_cons_of_some hsome, List.append_nil]
  · rw [refusalOf_append, hnone, refusalOf_cons, hsome, Option.none_or, Option.some_or]

/-! ### Main statement -/

/-- **Ingestion completes exactly on legible counts**, from any table, for one item, for a job and for
two jobs.  Legible counts that are not accepted cost their own items only; the first illegible one
costs its item and all that follow. -/
theorem completes_iff_legible (t : Table) (min : Int) (side : Side) :
    (∀ test item, (t.ingest min side [(test, item)]).stoppedBy = none ↔ item.Legible) ∧
    (∀ job, (t.addJob min side job).stoppedBy = none ↔ job.Legible) ∧
    (∀ left right, (ofJobs left right min).stoppedBy = none ↔ left.Legible ∧ right.Legible) ∧
    (∀ before test item after, item.Legible → ¬ item.IsKept min →
      (t.ingest min side (before ++ (test, item) :: after)).table =
          (t.ingest min side (before ++ after)).table ∧
        (t.ingest min side (before ++ (test, item) :: after)).stoppedBy =
          (t.ingest min side (before ++ after)).stoppedBy) ∧
    (∀ before test item after d, (∀ e ∈ before, e.2.Legible) → Overlong (item.label "Count") d →
      (t.ingest min side (before ++ (test, item) :: after)).table =
          (t.ingest min side before).table ∧
        (t.ingest min side (before ++ (test, item) :: after)).stoppedBy = some d) := by
  refine ⟨?_, ?_, ?_, ?_, ?_⟩
  · intro test item
    rw [(ingest_eq _ _ _ _).2, refusalOf_eq_none_iff_legible]
    simp
  · intro job
    rw [stoppedBy_addJob, Job.legible_iff]
  · intro left right
    rw [stoppedBy_ofJobs, Option.or_eq_none_iff, Job.legible_iff, Job.legible_iff]
  · intro before test item after hlegible hout
    exact ingest_of_not_isKept hlegible hout side before test after t
  · intro before test item after d hbefore hitem
    exact ingest_of_overlong hbefore hitem min side test after t

/-- A count that is no numeral costs its own item only. -/
theorem completes_iff_legible_malformed :
    (empty.ingest 0 .left [("T", ⟨[("P", 1)], .str "", [("Count", "ten")]⟩),
        ("T", ⟨[("P", 2)], .str "", []⟩)]).table =
      (empty.ingest 0 .left [("T", ⟨[("P", 2)], .str "", []⟩)]).table := by
  have hlegible : DataItem.Legible ⟨[("P", 1)], .str "", [("Count", "ten")]⟩ := by
    rw [DataItem.legible_iff]
    decide +kernel
  have hout : ¬ DataItem.IsKept 0 ⟨[("P", 1)], .str "", [("Count", "ten")]⟩ := by decide +kernel
  obtain ⟨-, -, -, hdropped, -⟩ := completes_iff_legible empty 0 .left
  exact (hdropped [] "T" _ [("T", ⟨[("P", 2)], .str "", []⟩)] hlegible hout).1

end Table

/-! ### A job that stops its ingestion -/

/-- A text of nines. -/
def nines (n : Nat) : String := String.ofList (List.replicate n '9')

theorem overlong_nines {n : Nat} (h : Decimal.maxDigits < n) : Overlong (nines n) n := by
  refine ⟨nines n, rfl, false, List.replicate n '9', ?_, ⟨?_, ?_⟩, List.length_replicate, h⟩
  · rw [nines, String.toList_ofList]
    exact .bare _
  · intro hnil
    have hlen : n = 0 := by simpa using congrArg List.length hnil
    omega
  · intro c hc
    rw [List.eq_of_mem_replicate hc]
    rfl

/-- A count of 4301 nines, and an item without a count behind it. -/
def overlongJob : Job :=
  [[("T", [⟨"", [⟨[("P", 1)], .str "", [("Count", nines 4301)]⟩, ⟨[("P", 2)], .str "", []⟩], []⟩])]]

/-- The item behind the illegible count is lost. -/
theorem overlongJob_stops :
    (Table.empty.addJob 0 .left overlongJob).stoppedBy = some 4301 ∧
      (Table.empty.addJob 0 .left overlongJob).table.keys = [] := by
  have hlong : Overlong (nines 4301) 4301 := overlong_nines (by decide)
  have hnone : ∀ e ∈ ([] : List (Text × DataItem)), e.2.Legible := by simp
  have hstop := fun item : DataItem => @Table.ingest_of_overlong [] hnone item 4301
  obtain ⟨htable, hstopped⟩ := hstop ⟨[("P", 1)], .str "", [("Count", nines 4301)]⟩ hlong 0 .left
    "T" [("T", ⟨[("P", 2)], .str "", []⟩)] Table.empty
  exact ⟨hstopped, congrArg Table.keys htable⟩

end BenchCompare
