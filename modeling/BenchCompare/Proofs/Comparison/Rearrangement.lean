import BenchCompare.Comparison.Report
import BenchCompare.Proofs.Comparison.Order
import BenchCompare.Proofs.Comparison.Schedule

/-! # Reports do not depend on irrelevant order

  Jobs that differ in the order of the tests of a run, and of the percentiles of
  an item, deliver the same samples in the same order: a metric belongs to one
  test and one percentile, so that what changes places belongs to different
  metrics.  Runs of different sides do not meet in a list of samples either.
  Buckets may be made in another order, but a report shows them in the order of
  their keys.

  * `Job.Rearranged job job'`: the jobs differ in such order only.
  * `Job.IsDistinct job`: no run names a test twice, and no item a percentile.
  * `Table.Alike t t'`: the tables hold the same and give the same reports.

  Main statement: `reports_independent_of_order`.
-/

namespace BenchCompare

/-! ### Rearranged jobs -/

/-- Items that differ at most in the order of their percentiles. -/
structure DataItem.Rearranged (item item' : DataItem) : Prop where
  values : item.values.Perm item'.values
  unit : item.unit = item'.unit
  labels : item.labels = item'.labels

/-- Groups that differ at most in the order of percentiles. -/
structure PerfData.Rearranged (group group' : PerfData) : Prop where
  version : group.version = group'.version
  items : List.Forall₂ DataItem.Rearranged group.items group'.items
  labels : group.labels = group'.labels

/-- Runs that differ at most in the order of their tests and of percentiles. -/
def Run.Rearranged (run run' : Run) : Prop :=
  ∃ mid : Run, run.Perm mid ∧
    List.Forall₂ (fun e e' => e.1 = e'.1 ∧ List.Forall₂ PerfData.Rearranged e.2 e'.2) mid run'

/-- Jobs that differ at most in the order of the tests in each run and of percentiles. -/
def Job.Rearranged (job job' : Job) : Prop := List.Forall₂ Run.Rearranged job job'

/-- No test is named twice, and no percentile is named twice in an item. -/
structure Run.IsDistinct (run : Run) : Prop where
  tests : (run.map (·.1)).Nodup
  percentiles : ∀ entry ∈ run, ∀ group ∈ entry.2, ∀ item ∈ group.items,
    (item.values.map (·.1)).Nodup

/-- All runs of a job are distinct in their names. -/
def Job.IsDistinct (job : Job) : Prop := ∀ run ∈ job, run.IsDistinct

/-- Tables that hold the same samples and give the same reports once they are summarised. -/
structure Table.Alike (t t' : Table) : Prop where
  keys : ∀ k, k ∈ t.keys ↔ k ∈ t'.keys
  samples : ∀ k side, (t.getD k).samples side = (t'.getD k).samples side
  comparison : t.summarise.comparison = t'.summarise.comparison
  statistics : ∀ places, t.summarise.statistics places = t'.summarise.statistics places
  exported : t.summarise.exported = t'.summarise.exported

/-! ### Lists -/

section

variable {α β γ : Type} {R : α → β → Prop} {xs : List α} {ys : List β}

theorem flatMap_eq_of_forall₂ {f : α → List γ} {g : β → List γ} (h : List.Forall₂ R xs ys)
    (heq : ∀ x y, x ∈ xs → R x y → f x = g y) : xs.flatMap f = ys.flatMap g := by
  induction h with
  | nil => rfl
  | @cons x y xs ys hxy _ ih =>
    rw [List.flatMap_cons, List.flatMap_cons, heq x y List.mem_cons_self hxy,
      ih fun x' y' hx' => heq x' y' (List.mem_cons_of_mem x hx')]

theorem forall_mem_iff_of_forall₂ {P : α → Prop} {Q : β → Prop} (h : List.Forall₂ R xs ys)
    (hiff : ∀ x y, R x y → (P x ↔ Q y)) : (∀ x ∈ xs, P x) ↔ ∀ y ∈ ys, Q y := by
  induction h with
  | nil => simp
  | cons hxy _ ih => rw [List.forall_mem_cons, List.forall_mem_cons, hiff _ _ hxy, ih]

/-- The order of a list does not matter for what at most one of its elements gives. -/
theorem flatMap_eq_of_perm {f : α → List γ} {xs' : List α} (h : xs.Perm xs')
    (hone : xs.Pairwise fun a b => f a = [] ∨ f b = []) : xs.flatMap f = xs'.flatMap f := by
  induction h with
  | nil => rfl
  | cons a _ ih => rw [List.flatMap_cons, List.flatMap_cons, ih (List.pairwise_cons.mp hone).2]
  | swap a b xs =>
    rw [List.pairwise_cons] at hone
    rcases hone.1 a List.mem_cons_self with hb | ha
    · simp [hb]
    · simp [ha]
  | trans h₁ _ ih₁ ih₂ =>
    rw [ih₁ hone]
    exact ih₂ ((h₁.pairwise_iff fun h => h.symm).mp hone)

end

/-! ### What changes places belongs to different metrics -/

namespace DataItem

variable {item item' : DataItem}

theorem Rearranged.label_eq (h : item.Rearranged item') : item.label = item'.label := by
  funext name
  rw [label, label, h.labels]

theorem Rearranged.legible_iff (h : item.Rearranged item') : item.Legible ↔ item'.Legible := by
  rw [Legible, Legible, h.label_eq]

theorem Rearranged.isKept_iff (h : item.Rearranged item') (min : Int) :
    item.IsKept min ↔ item'.IsKept min := by
  rw [IsKept, IsKept, h.label_eq]

theorem Rearranged.measures_iff (h : item.Rearranged item') (test percentile : Text)
    (k : MetricKey) : item.Measures test percentile k ↔ item'.Measures test percentile k := by
  rw [Measures, Measures, h.label_eq]

/-- The values of two percentiles are never delivered for one metric. -/
theorem Rearranged.delivered_eq (h : item.Rearranged item')
    (hdistinct : (item.values.map (·.1)).Nodup) (min : Int) (k : MetricKey) (test : Text) :
    item.delivered min k test = item'.delivered min k test := by
  have hsame : item'.delivered min k test = item'.values.filterMap fun e =>
      if item.IsKept min ∧ item.Measures test e.1 k ∧ e.2.isNaN = false then some e.2 else none := by
    simp only [delivered, h.isKept_iff, h.measures_iff]
  rw [hsame, delivered, List.filterMap_eq_flatMap_toList, List.filterMap_eq_flatMap_toList]
  apply flatMap_eq_of_perm h.values
  refine (List.pairwise_map.mp hdistinct).imp ?_
  intro a b hne
  by_cases ha : item.Measures test a.1 k
  · have hb : ¬ item.Measures test b.1 k := fun hb => hne (ha.2.2.2.2.symm.trans hb.2.2.2.2)
    exact .inr (by simp [hb])
  · exact .inl (by simp [ha])

end DataItem

/-- The samples that the groups of a test hold for a metric. -/
def deliveredBy (min : Int) (k : MetricKey) (entry : Text × List PerfData) : List Float :=
  entry.2.flatMap fun group => group.items.flatMap fun item => item.delivered min k entry.1

theorem Job.delivered_eq_flatMap (min : Int) (k : MetricKey) (job : Job) :
    job.delivered min k = job.flatMap fun run => run.flatMap (deliveredBy min k) := rfl

/-- A test delivers nothing for the metrics of other tests. -/
theorem deliveredBy_eq_nil {k : MetricKey} {entry : Text × List PerfData}
    (h : k.test ≠ entry.1) (min : Int) : deliveredBy min k entry = [] := by
  simp [deliveredBy, DataItem.delivered, DataItem.Measures, h]

namespace Run

variable {run run' : Run}

theorem Rearranged.delivered_eq (h : run.Rearranged run') (hdistinct : run.IsDistinct) (min : Int)
    (k : MetricKey) : run.flatMap (deliveredBy min k) = run'.flatMap (deliveredBy min k) := by
  obtain ⟨mid, hperm, heach⟩ := h
  have htests : run.flatMap (deliveredBy min k) = mid.flatMap (deliveredBy min k) := by
    apply flatMap_eq_of_perm hperm
    refine (List.pairwise_map.mp hdistinct.tests).imp ?_
    intro a b hne
    by_cases ha : k.test = a.1
    · exact .inr (deliveredBy_eq_nil (fun hb => hne (ha.symm.trans hb)) min)
    · exact .inl (deliveredBy_eq_nil ha min)
  rw [htests]
  apply flatMap_eq_of_forall₂ heach
  intro entry entry' hentry hsame
  obtain ⟨hname, hgroups⟩ := hsame
  have hpercentiles := hdistinct.percentiles entry (hperm.mem_iff.mpr hentry)
  apply flatMap_eq_of_forall₂ hgroups
  intro group group' hgroup hitems
  apply flatMap_eq_of_forall₂ hitems.items
  intro item item' hitem hvalues
  rw [hname]
  exact hvalues.delivered_eq (hpercentiles group hgroup item hitem) min k entry'.1

end Run

namespace Job

variable {job job' : Job}

theorem Rearranged.delivered_eq (h : job.Rearranged job') (hdistinct : job.IsDistinct) (min : Int)
    (k : MetricKey) : job.delivered min k = job'.delivered min k := by
  rw [Job.delivered_eq_flatMap, Job.delivered_eq_flatMap]
  apply flatMap_eq_of_forall₂ h
  intro run run' hrun hsame
  exact hsame.delivered_eq (hdistinct run hrun) min k

theorem Rearranged.legible_iff (h : job.Rearranged job') : job.Legible ↔ job'.Legible := by
  apply forall_mem_iff_of_forall₂ h
  intro run run' hrun
  obtain ⟨mid, hperm, heach⟩ := hrun
  simp only [hperm.mem_iff]
  apply forall_mem_iff_of_forall₂ heach
  intro entry entry' hentry
  apply forall_mem_iff_of_forall₂ hentry.2
  intro group group' hgroup
  exact forall_mem_iff_of_forall₂ hgroup.items fun _ _ hitem => hitem.legible_iff

end Job

/-! ### Tables that hold the same -/

namespace Table

/-- The reports show the sorted entries and nothing else. -/
theorem reports_congr {t t' : Table} (h : t.sorted = t'.sorted) : t.comparison = t'.comparison ∧
    (∀ places, t.statistics places = t'.statistics places) ∧ t.exported = t'.exported := by
  refine ⟨?_, ?_, ?_⟩
  · rw [comparison, comparison, comparisonRows, comparisonRows, h]
  · intro places
    rw [statistics, statistics, statisticsRows, statisticsRows, h]
  · rw [exported, exported, exportRows, exportRows, h]

theorem alike_of_getD {t t' : Table} (h : t.keys.Nodup) (h' : t'.keys.Nodup)
    (hkeys : ∀ k, k ∈ t.keys ↔ k ∈ t'.keys) (hbuckets : ∀ k, t.getD k = t'.getD k) :
    Alike t t' := by
  have hsorted : t.summarise.sorted = t'.summarise.sorted := by
    apply sorted_congr
    · rwa [keys_summarise]
    · rwa [keys_summarise]
    · intro k
      rw [keys_summarise, keys_summarise, hkeys]
    · intro k
      rw [getD_summarise, getD_summarise, hbuckets]
  obtain ⟨hcomparison, hstatistics, hexported⟩ := reports_congr hsorted
  refine ⟨hkeys, ?_, hcomparison, hstatistics, hexported⟩
  intro k side
  rw [hbuckets]

/-- What two schedules add on the two sides decides whether their tables are alike. -/
theorem alike_of_follow {min : Int} {s s' : Schedule} {t t' : Table}
    (h : follow min s empty = some t) (h' : follow min s' empty = some t')
    (hleft : ∀ k, (s.runs .left).delivered min k = (s'.runs .left).delivered min k)
    (hright : ∀ k, (s.runs .right).delivered min k = (s'.runs .right).delivered min k) :
    Alike t t' := by
  have hempty : empty.keys.Nodup := List.nodup_nil
  apply alike_of_getD (nodup_keys_follow h hempty) (nodup_keys_follow h' hempty)
  · intro k
    rw [mem_keys_follow h, mem_keys_follow h', hleft, hright]
  · intro k
    rw [getD_follow h, getD_follow h', hleft, hright]

/-! ### Main statement -/

/-- **Reports do not depend on irrelevant order.**  Let two jobs be rearranged, and let the runs of
the rearranged ones be added in any interleaving, such as all right ones first: this completes
exactly if the comparison of the two jobs does, and then the tables hold the same and give the same
reports. -/
theorem reports_independent_of_order (min : Int) {left right left' right' : Job}
    (hleft : left.Rearranged left') (hright : right.Rearranged right')
    (hdistinctLeft : left.IsDistinct) (hdistinctRight : right.IsDistinct) :
    ((ofJobs left right min).stoppedBy = none ↔ (ofJobs left' right' min).stoppedBy = none) ∧
    ((ofJobs left right min).stoppedBy = none →
      Alike (ofJobs left right min).table (ofJobs left' right' min).table) ∧
    ∀ s : Schedule, s.runs .left = left' → s.runs .right = right' →
      ((ofJobs left right min).stoppedBy = none ↔ (follow min s empty).isSome) ∧
      ((ofJobs left right min).stoppedBy = none → ∀ t, follow min s empty = some t →
        Alike (ofJobs left right min).table t) := by
  have hcompletes : (ofJobs left right min).stoppedBy = none ↔ left'.Legible ∧ right'.Legible := by
    rw [completes_ofJobs_iff, hleft.legible_iff, hright.legible_iff]
  have halike : ∀ s : Schedule, s.runs .left = left' → s.runs .right = right' →
      (ofJobs left right min).stoppedBy = none → ∀ t, follow min s empty = some t →
        Alike (ofJobs left right min).table t := by
    intro s hsl hsr h t ht
    apply alike_of_follow (follow_ofJobs h) ht
    · intro k
      rw [hsl, ← hleft.delivered_eq hdistinctLeft]
      simp [Schedule.runs]
    · intro k
      rw [hsr, ← hright.delivered_eq hdistinctRight]
      simp [Schedule.runs]
  refine ⟨?_, ?_, ?_⟩
  · rw [hcompletes, completes_ofJobs_iff]
  · intro h
    have h' : (ofJobs left' right' min).stoppedBy = none := by
      rwa [completes_ofJobs_iff, ← hcompletes]
    exact halike [(.left, left'), (.right, right')] (by simp [Schedule.runs])
      (by simp [Schedule.runs]) h _ (follow_ofJobs h')
  · intro s hsl hsr
    refine ⟨?_, halike s hsl hsr⟩
    rw [hcompletes, isSome_follow_iff, hsl, hsr]

/-- A run of two tests. -/
def orderedRun : Run :=
  [("A", [⟨"", [⟨[("Perc50", 1), ("Perc99", 2)], .str "", []⟩], []⟩]),
    ("B", [⟨"", [⟨[("Perc50", 3)], .str "", []⟩], []⟩])]

/-- The same run, the tests and the percentiles in another order. -/
def reorderedRun : Run :=
  [("B", [⟨"", [⟨[("Perc50", 3)], .str "", []⟩], []⟩]),
    ("A", [⟨"", [⟨[("Perc99", 2), ("Perc50", 1)], .str "", []⟩], []⟩])]

theorem orderedRun_rearranged : orderedRun.Rearranged reorderedRun := by
  refine ⟨_, List.Perm.swap _ _ [], ?_⟩
  refine .cons ⟨rfl, .cons ⟨rfl, .cons ⟨.refl _, rfl, rfl⟩ .nil, rfl⟩ .nil⟩ (.cons ?_ .nil)
  exact ⟨rfl, .cons ⟨rfl, .cons ⟨.swap _ _ [], rfl, rfl⟩ .nil, rfl⟩ .nil⟩

/-- One right run is added before the left one, and one behind it. -/
theorem reports_independent_of_order_orderedRun :
    ∃ t, follow 0 [(.right, [reorderedRun]), (.left, [reorderedRun]), (.right, [reorderedRun])]
        empty = some t ∧
      Alike (ofJobs [orderedRun] [orderedRun, orderedRun] 0).table t := by
  have hdistinct : orderedRun.IsDistinct := by
    refine ⟨by decide +kernel, ?_⟩
    simp [orderedRun]
  obtain ⟨-, -, hschedule⟩ := reports_independent_of_order 0
    (.cons orderedRun_rearranged .nil)
    (.cons orderedRun_rearranged (.cons orderedRun_rearranged .nil))
    (by simpa [Job.IsDistinct] using hdistinct) (by simpa [Job.IsDistinct] using hdistinct)
  have hstopped : (ofJobs [orderedRun] [orderedRun, orderedRun] 0).stoppedBy = none := by
    decide +kernel
  obtain ⟨hcompletes, halike⟩ := hschedule [(.right, [reorderedRun]), (.left, [reorderedRun]),
    (.right, [reorderedRun])] rfl rfl
  obtain ⟨t, ht⟩ := Option.isSome_iff_exists.mp (hcompletes.mp hstopped)
  exact ⟨t, ht, halike hstopped t ht⟩

end Table

end BenchCompare
