import BenchCompare.Proofs.Comparison.Export
import BenchCompare.Proofs.Comparison.Schedule

/-! # Left and right are alike

  Comparing two jobs the other way round gives the same buckets with their sides
  exchanged.  The reports show them in the same order, and exchange the four
  columns of each side.

  * `Bucket.exchange b`: the bucket with its sides exchanged.
  * `exchangeColumns row`: a row with the columns of its sides exchanged.

  Main statement: `ofJobs_mirrored`.
-/

namespace BenchCompare

/-- A row with the four columns of each side, behind those of the key, exchanged. -/
def exchangeColumns {α : Type} (row : List α) : List α :=
  row.take 5 ++ (row.drop 9).take 4 ++ (row.drop 5).take 4 ++ row.drop 13

/-- Tables that differ in nothing but their sides. -/
structure Table.Mirrored (t t' : Table) : Prop where
  keys : ∀ k, k ∈ t'.keys ↔ k ∈ t.keys
  samples : ∀ k side, (t'.getD k).samples side = (t.getD k).samples side.other
  summaries : ∀ k side,
    (t'.summarise.getD k).summary side = (t.summarise.getD k).summary side.other
  exported : ∃ rows,
    Csv.read t.summarise.exported.toList = some (exportColumns.map Text.toList :: rows) ∧
    Csv.read t'.summarise.exported.toList =
      some (exportColumns.map Text.toList :: rows.map exchangeColumns)
  statistics : ∀ places, t'.summarise.statisticsRows places =
    (t.summarise.statisticsRows places).map (List.map exchangeColumns)

/-! ### Buckets -/

namespace Bucket

/-- The bucket with its sides exchanged. -/
def exchange (b : Bucket) : Bucket :=
  ⟨b.right, b.left, b.matched, b.comments, b.rightSummary, b.leftSummary⟩

theorem samples_exchange (b : Bucket) (side : Side) :
    b.exchange.samples side = b.samples side.other := by
  cases side <;> rfl

theorem summary_exchange (b : Bucket) (side : Side) :
    b.exchange.summary side = b.summary side.other := by
  cases side <;> rfl

theorem summarise_exchange (b : Bucket) : b.exchange.summarise = b.summarise.exchange := rfl

end Bucket

/-! ### Rows -/

theorem exportRow_exchange (k : MetricKey) (b : Bucket) :
    exportRow k b.exchange = exchangeColumns (exportRow k b) := rfl

/-- Why a statistic cannot be shown does not depend on the statistic. -/
theorem Layout.statisticText_fault_unique {places : Int} {x y : Float} {e e' : Layout.CellError}
    (h : Layout.statisticText places x = .error e) (h' : Layout.statisticText places y = .error e') :
    e = e' := by
  unfold Layout.statisticText at h h'
  split_ifs at h h' <;> simp_all

theorem sideCells_cases (places : Int) (b : Bucket) (side : Side) :
    (∃ count mean deviation maximum,
      sideCells places b side = .ok [count, mean, deviation, maximum]) ∨
    ∃ e x, sideCells places b side = .error e ∧ Layout.statisticText places x = .error e := by
  simp only [sideCells]
  cases hmean : Layout.statisticText places (b.summary side).mean with
  | error e => exact .inr ⟨e, _, rfl, hmean⟩
  | ok mean =>
    cases hdeviation : Layout.statisticText places (b.summary side).deviation with
    | error e => exact .inr ⟨e, _, rfl, hdeviation⟩
    | ok deviation =>
      cases hmaximum : Layout.statisticText places (b.summary side).maximum with
      | error e => exact .inr ⟨e, _, rfl, hmaximum⟩
      | ok maximum => exact .inl ⟨_, mean, deviation, maximum, rfl⟩

/-- If both sides cannot be shown, it makes no difference which of them is met first. -/
theorem statisticsRow_exchange (places : Int) (k : MetricKey) (b : Bucket) :
    statisticsRow places k b.exchange = (statisticsRow places k b).map exchangeColumns := by
  have hleft : sideCells places b.exchange .left = sideCells places b .right := rfl
  have hright : sideCells places b.exchange .right = sideCells places b .left := rfl
  unfold statisticsRow
  rw [hleft, hright]
  rcases sideCells_cases places b .left with ⟨_, _, _, _, hl⟩ | ⟨e, x, hl, hx⟩ <;>
    rcases sideCells_cases places b .right with ⟨_, _, _, _, hr⟩ | ⟨e', x', hr, hx'⟩ <;>
    rw [hl, hr]
  · rfl
  · rfl
  · rfl
  · rw [Layout.statisticText_fault_unique hx hx']
    rfl

/-- Changing the results of an action changes those of the action on a list. -/
theorem mapM_map_result {ε α β γ : Type} (f : α → Except ε β) (g : β → γ) (xs : List α) :
    xs.mapM (fun x => (f x).map g) = (xs.mapM f).map (List.map g) := by
  induction xs with
  | nil => rfl
  | cons x xs ih =>
    rw [List.mapM_cons, List.mapM_cons, ih]
    cases f x with
    | error e => rfl
    | ok y => cases xs.mapM f <;> rfl

/-! ### Tables -/

namespace Table

/-- If the buckets are exchanged, so is everything that is shown. -/
theorem mirrored_of_getD {t t' : Table} (h : t.keys.Nodup) (h' : t'.keys.Nodup)
    (hkeys : ∀ k, k ∈ t'.keys ↔ k ∈ t.keys) (hbuckets : ∀ k, t'.getD k = (t.getD k).exchange) :
    Mirrored t t' := by
  have hsummarised : ∀ k, t'.summarise.getD k = (t.summarise.getD k).exchange := by
    intro k
    rw [getD_summarise, getD_summarise, hbuckets, Bucket.summarise_exchange]
  have hsorted : t'.summarise.sorted = t.summarise.sorted.map fun e => (e.1, e.2.exchange) := by
    apply sorted_eq_map Bucket.exchange _ _ _ hsummarised
    · rwa [keys_summarise]
    · rwa [keys_summarise]
    · intro k
      rw [keys_summarise, keys_summarise, hkeys]
  refine ⟨hkeys, ?_, ?_, ?_, ?_⟩
  · intro k side
    rw [hbuckets, Bucket.samples_exchange]
  · intro k side
    rw [hsummarised, Bucket.summary_exchange]
  · refine ⟨_, read_exported t.summarise, ?_⟩
    rw [read_exported, exportRows, hsorted, List.map_cons]
    simp only [List.map_map, Function.comp_def, exportRow_exchange]
    rfl
  · intro places
    rw [statisticsRows, statisticsRows, hsorted, List.mapM_map, ← mapM_map_result]
    exact congrArg (fun f => List.mapM f t.summarise.sorted)
      (funext fun e => statisticsRow_exchange places e.1 e.2)

/-! ### Main statement -/

/-- **Comparing two jobs the other way round exchanges the sides** and changes nothing else: it
completes exactly if the comparison does, and then samples, summaries and reports are exchanged. -/
theorem ofJobs_mirrored (left right : Job) (min : Int) :
    ((ofJobs left right min).stoppedBy = none ↔ (ofJobs right left min).stoppedBy = none) ∧
    ((ofJobs left right min).stoppedBy = none →
      Mirrored (ofJobs left right min).table (ofJobs right left min).table) := by
  have hcompletes : (ofJobs left right min).stoppedBy = none ↔
      (ofJobs right left min).stoppedBy = none := by
    rw [completes_ofJobs_iff, completes_ofJobs_iff, and_comm]
  refine ⟨hcompletes, ?_⟩
  intro h
  have hfollow := follow_ofJobs h
  have hfollow' := follow_ofJobs (hcompletes.mp h)
  have hempty : empty.keys.Nodup := List.nodup_nil
  apply mirrored_of_getD (nodup_keys_follow hfollow hempty) (nodup_keys_follow hfollow' hempty)
  · intro k
    rw [mem_keys_follow hfollow, mem_keys_follow hfollow']
    simp only [Schedule.runs]
    simp [or_comm]
  · intro k
    rw [getD_follow hfollow, getD_follow hfollow']
    simp [Schedule.runs]
    rfl

/-- What was measured on the left only is then measured on the right only. -/
theorem ofJobs_mirrored_exampleJob :
    (ofJobs exampleJob [] 10).stoppedBy = none ∧
      Mirrored (ofJobs exampleJob [] 10).table (ofJobs [] exampleJob 10).table ∧
      ((ofJobs [] exampleJob 10).table.getD ⟨"Density", "LIST", "", "", "Perc50"⟩).right = [1, 3] := by
  have hcompletes : (ofJobs exampleJob [] 10).stoppedBy = none := by decide +kernel
  exact ⟨hcompletes, (ofJobs_mirrored exampleJob [] 10).2 hcompletes, by decide +kernel⟩

end Table

end BenchCompare
