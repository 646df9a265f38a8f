import BenchCompare.Proofs.Comparison.Intake

/-! # Ingestion is exact

  What a job says about a metric is stated here from the job alone: the numbers
  found by going through runs, tests, groups, items and percentiles, in this
  order, at the items that are kept and under the key in question.  The main
  statement is that an ingestion which is not stopped adds just these, in this
  order, to just this bucket and side.
-/

namespace BenchCompare

/-! ### What a job delivers -/

/-- A percentile of an item of a test belongs to a metric. -/
def DataItem.Measures (test : Text) (item : DataItem) (percentile : Text) (k : MetricKey) :
    Prop :=
  k.test = test ∧
  k.verb = (if item.label "Metric" = "pod_startup" then ("Pod-Startup" : Text) else item.label "Verb") ∧
  k.resource = item.label "Resource" ∧
  k.subresource = item.label "Subresource" ∧
  k.percentile = percentile

instance (test : Text) (item : DataItem) (percentile : Text) (k : MetricKey) :
    Decidable (item.Measures test percentile k) :=
  inferInstanceAs (Decidable (_ ∧ _ ∧ _ ∧ _ ∧ _))

/-- The samples that an item of a test holds for a metric. -/
def DataItem.delivered (min : Int) (k : MetricKey) (test : Text) (item : DataItem) : List Float :=
  item.values.filterMap fun (percentile, x) =>
    if item.IsKept min ∧ item.Measures test percentile k ∧ x.isNaN = false then some x else none

/-- The samples that a job holds for a metric: from run to run, test to test, group to group and item
to item. -/
def Job.delivered (min : Int) (k : MetricKey) (job : Job) : List Float :=
  job.flatMap fun run => run.flatMap fun (test, groups) => groups.flatMap fun group =>
    group.items.flatMap fun item => item.delivered min k test

/-- A table has taken in what a job holds, on one side. -/
structure Table.Receives (min : Int) (side : Side) (job : Job) (t t' : Table) : Prop where
  /-- The samples of the job follow those that were there. -/
  samples : ∀ k, (t'.getD k).samples side = (t.getD k).samples side ++ job.delivered min k
  /-- The other side is as it was. -/
  other : ∀ k, (t'.getD k).samples side.other = (t.getD k).samples side.other
  /-- A bucket is made exactly for a metric that gets a sample. -/
  keys : ∀ k, k ∈ t'.keys ↔ k ∈ t.keys ∨ job.delivered min k ≠ []
  /-- A new bucket has no verdict and no summaries. -/
  fresh : ∀ k ∈ t'.keys, k ∉ t.keys →
    (t'.getD k).matched = false ∧ (t'.getD k).comments = "" ∧
      ∀ s, ((t'.getD k).summary s).Undefined

/-- A table holds what two jobs hold, each on its side, and nothing else. -/
structure Table.Holds (min : Int) (left right : Job) (t : Table) : Prop where
  /-- The left samples are those of the left job. -/
  samples_left : ∀ k, (t.getD k).samples .left = left.delivered min k
  /-- The right samples are those of the right job. -/
  samples_right : ∀ k, (t.getD k).samples .right = right.delivered min k
  /-- There is a bucket exactly for a metric with a sample. -/
  keys : ∀ k, k ∈ t.keys ↔ left.delivered min k ≠ [] ∨ right.delivered min k ≠ []
  /-- No bucket has a verdict or summaries. -/
  fresh : ∀ k, (t.getD k).matched = false ∧ (t.getD k).comments = "" ∧
    ∀ s, ((t.getD k).summary s).Undefined

/-! ### What is delivered is what is taken in -/

theorem DataItem.key_eq_iff (test : Text) (item : DataItem) (percentile : Text)
    (k : MetricKey) : item.key test percentile = k ↔ item.Measures test percentile k := by
  obtain ⟨test', verb', resource', subresource', percentile'⟩ := k
  simp only [key, verb, Measures, MetricKey.mk.injEq]
  constructor
  · intro h
    obtain ⟨rfl, rfl, rfl, rfl, rfl⟩ := h
    exact ⟨rfl, rfl, rfl, rfl, rfl⟩
  · intro h
    obtain ⟨rfl, rfl, rfl, rfl, rfl⟩ := h
    exact ⟨rfl, rfl, rfl, rfl, rfl⟩

theorem DataItem.samplesFor_samples (min : Int) (k : MetricKey) (test : Text) (item : DataItem) :
    samplesFor k (if item.IsKept min then item.samples test else []) =
      item.delivered min k test := by
  unfold delivered
  by_cases hk : item.IsKept min
  · simp only [hk, if_true, true_and, samples, samplesFor, List.filterMap_map, ← key_eq_iff]
    rfl
  · simp [hk]

theorem samplesFor_flatMap {α : Type} (k : MetricKey) (f : α → List (MetricKey × Float))
    (xs : List α) : samplesFor k (xs.flatMap f) = xs.flatMap fun x => samplesFor k (f x) := by
  simp [samplesFor, List.filterMap_flatMap]

/-- If no count of a job is refused, all that the job holds is taken in. -/
theorem samplesFor_intake {job : Job} (h : refusalOf job.items = none) (min : Int)
    (k : MetricKey) : samplesFor k (intake min job.items) = job.delivered min k := by
  rw [intake_eq_flatMap h, samplesFor_flatMap]
  simp only [DataItem.samplesFor_samples]
  simp only [Job.items, Run.items, Job.delivered, List.flatMap_assoc, List.flatMap_map]

/-- Adding what is taken in from a job is receiving what the job holds. -/
theorem Table.receives_addSamples {job : Job} (h : refusalOf job.items = none) (min : Int)
    (side : Side) (t : Table) :
    Receives min side job t (t.addSamples side (intake min job.items)) := by
  have hdelivered := samplesFor_intake h min
  refine ⟨?_, ?_, ?_, ?_⟩
  · intro k
    rw [getD_addSamples, Bucket.samples_append, hdelivered]
  · intro k
    rw [getD_addSamples, Bucket.samples_append_other]
  · intro k
    rw [mem_keys_addSamples, hdelivered]
  · intro k _ hnew
    rw [getD_addSamples, getD_of_notMem hnew]
    refine ⟨?_, ?_, ?_⟩
    · rw [Bucket.matched_append]; rfl
    · rw [Bucket.comments_append]; rfl
    · intro s
      rw [Bucket.summary_append, Bucket.summary_empty]
      exact Summary.undefined_empty

/-- Adding what is taken in from two jobs is holding what they hold. -/
theorem Table.holds_addSamples {left right : Job} (hl : refusalOf left.items = none)
    (hr : refusalOf right.items = none) (min : Int) :
    Holds min left right ((empty.addSamples .left (intake min left.items)).addSamples .right
      (intake min right.items)) := by
  have hbucket : ∀ k, ((empty.addSamples .left (intake min left.items)).addSamples .right
      (intake min right.items)).getD k =
        (Bucket.empty.append .left (left.delivered min k)).append .right
          (right.delivered min k) := by
    intro k
    rw [getD_addSamples, getD_addSamples, getD_empty, samplesFor_intake hl, samplesFor_intake hr]
  refine ⟨?_, ?_, ?_, ?_⟩
  · intro k
    rw [hbucket]
    rfl
  · intro k
    rw [hbucket]
    rfl
  · intro k
    rw [mem_keys_addSamples, mem_keys_addSamples, samplesFor_intake hl, samplesFor_intake hr]
    simp
  · intro k
    rw [hbucket]
    refine ⟨rfl, rfl, ?_⟩
    intro s
    rw [Bucket.summary_append, Bucket.summary_append, Bucket.summary_empty]
    exact Summary.undefined_empty

/-! ### Main statement -/

/-- **Ingestion is exact**: a job whose ingestion is not stopped is received on its side, and the
table of two jobs holds what they hold. -/
theorem Table.ingestion_exact (min : Int) :
    (∀ (t : Table) (job : Job) (side : Side), (t.addJob min side job).stoppedBy = none →
      Receives min side job t (t.addJob min side job).table) ∧
    (∀ left right : Job, (ofJobs left right min).stoppedBy = none →
      Holds min left right (ofJobs left right min).table) := by
  constructor
  · intro t job side h
    rw [stoppedBy_addJob] at h
    rw [table_addJob]
    exact receives_addSamples h min side t
  · intro left right h
    rw [stoppedBy_ofJobs, Option.or_eq_none_iff] at h
    obtain ⟨hl, hr⟩ := h
    rw [table_ofJobs, if_pos hl]
    exact holds_addSamples hl hr min

/-- Two runs of one test.  The items count a signed number of requests, too few, and none at all. -/
def exampleJob : Job :=
  [[("Density", [⟨"v1", [
      ⟨[("Perc50", 1), ("Perc99", nan)], .str "ms", [("Verb", "LIST"), ("Count", "+10")]⟩,
      ⟨[("Perc50", 2)], .str "ms", [("Verb", "LIST"), ("Count", "9")]⟩], []⟩])],
    [("Density", [⟨"v1", [⟨[("Perc50", 3)], .str "ms", [("Verb", "LIST")]⟩], []⟩])]]

/-- Only the second item is left out, and the value that is no number. -/
theorem ingestion_exact_exampleJob :
    (Table.empty.addJob 10 .left exampleJob).stoppedBy = none ∧
      Table.Receives 10 .left exampleJob .empty (Table.empty.addJob 10 .left exampleJob).table ∧
      exampleJob.delivered 10 ⟨"Density", "LIST", "", "", "Perc50"⟩ = [1, 3] ∧
      exampleJob.delivered 10 ⟨"Density", "LIST", "", "", "Perc99"⟩ = [] := by
  have hgoes : (Table.empty.addJob 10 .left exampleJob).stoppedBy = none := by decide +kernel
  refine ⟨hgoes, (Table.ingestion_exact 10).1 _ _ _ hgoes, ?_, ?_⟩ <;> decide +kernel

end BenchCompare
