import BenchCompare.Proofs.Comparison.Export
import BenchCompare.Proofs.Comparison.Lines
import BenchCompare.Proofs.Comparison.Positions

/-! # One order for all views

  The entries of a table have only one arrangement in which each key comes before the
  next one.  All views show this one, so it makes no difference in which order the
  buckets were made.  No key has two buckets, as in every table that is made
  (`Sound.nodup`).

  * `ComparisonRow k b row`: the cells are a row of the comparison.
  * `Table.Arranged t es`: the entries in the order of their keys.
  * `Table.Views t`: what the views of a table show.

  Main statement: `Table.sorted_views`.
-/

namespace BenchCompare

open Layout (RowByRow)

/-- Cells with the key of a bucket, the word for its verdict and the comments on it. -/
inductive ComparisonRow (k : MetricKey) (b : Bucket) : List Text → Prop
  | matched (verdict : b.matched = true) :
      ComparisonRow k b [k.test, k.verb, k.resource, k.subresource, k.percentile, "True", b.comments]
  | unmatched (verdict : b.matched = false) :
      ComparisonRow k b [k.test, k.verb, k.resource, k.subresource, k.percentile, "False", b.comments]

theorem comparisonRow_shows (k : MetricKey) (b : Bucket) : ComparisonRow k b (comparisonRow k b) := by
  unfold comparisonRow
  cases hverdict : b.matched with
  | true => exact .matched hverdict
  | false => exact .unmatched hverdict

namespace Table

/-- The entries of a table, each key before the next one. -/
structure Arranged (t : Table) (es : List (MetricKey × Bucket)) : Prop where
  perm : es.Perm t.entries
  increasing : es.Pairwise fun a b => a.1.Before b.1

/-- Each view shows the sorted entries, row after row. -/
structure Views (t : Table) : Prop where
  /-- The comparison has a row for each of them behind its headers. -/
  comparison : ∃ rows, List.Forall₂ (fun e row => ComparisonRow e.1 e.2 row) t.sorted rows ∧
    RowByRow (comparisonHeaders :: rows) t.comparison
  /-- So have the statistics. -/
  statistics : ∀ places text, t.statistics places = .ok text →
    ∃ rows, List.Forall₂ (fun e row => StatisticsRow places e.1 e.2 row) t.sorted rows ∧
      RowByRow (statisticsHeaders :: rows) text
  /-- There are statistics with any number of places that a number is written with. -/
  shown : ∀ places, 0 ≤ places → places ≤ 0x7fffffff → ∃ text, t.statistics places = .ok text
  /-- The export is read back as the names of its columns and a record for each of them. -/
  exported : ∃ rows, Csv.read t.exported.toList = some (exportColumns.map Text.toList :: rows) ∧
    List.Forall₂ (fun e row => Describes e.1 e.2 row) t.sorted rows

variable {t : Table}

theorem arranged_sorted (h : t.keys.Nodup) : t.Arranged t.sorted where
  perm := t.sorted_perm
  increasing := (pairwise_lt_sorted h).imp MetricKey.lt_iff_before.mp

/-- There is only one arrangement. -/
theorem Arranged.unique {es es' : List (MetricKey × Bucket)} (h : t.Arranged es) (h' : t.Arranged es') :
    es = es' := by
  refine (h.perm.trans h'.perm.symm).eq_of_pairwise ?_ h.increasing h'.increasing
  intro a b _ _ hab hba
  rw [MetricKey.before_iff_fields_lt] at hab hba
  exact absurd hba (not_lt_of_gt hab)

theorem views (t : Table) : t.Views where
  comparison := by
    refine ⟨_, ?_, t.rowByRow_comparison⟩
    unfold comparisonRows
    rw [List.forall₂_map_right_iff, List.forall₂_same]
    exact fun e _ => comparisonRow_shows e.1 e.2
  statistics places text h := by
    obtain ⟨rows, hrows, rfl⟩ := statistics_eq_ok_iff.mp h
    exact ⟨rows, hrows, rowByRow_statistics hrows _⟩
  shown places h h' := exists_statistics h h' t
  exported := by
    refine ⟨_, t.read_exported, ?_⟩
    rw [List.map_map, List.forall₂_map_right_iff, List.forall₂_same]
    exact fun e _ => describes_exportRow e.1 e.2

/-- **All views show the buckets in one order**, which is that of their keys.  The order is total, and
so it leaves no choice, neither for the entries of a table nor for keys that are gathered from a list. -/
theorem sorted_views (t : Table) (hkeys : t.keys.Nodup) :
    (IsStrictTotalOrder MetricKey MetricKey.Before ∧
      ∀ k k' : MetricKey, k = k' ↔ ¬ k.Before k' ∧ ¬ k'.Before k) ∧
    (∀ es, t.Arranged es ↔ es = t.sorted) ∧
    (∀ t' : Table, t'.entries.Perm t.entries → t'.sorted = t.sorted ∧ t'.comparison = t.comparison ∧
      (∀ places, t'.statistics places = t.statistics places) ∧ t'.exported = t.exported) ∧
    t.Views ∧
    ∀ keys, Gathered keys (MetricKey.positions keys) := by
  have harranged := arranged_sorted hkeys
  refine ⟨⟨MetricKey.isStrictTotalOrder_before, fun _ _ => MetricKey.eq_iff_not_before⟩, ?_, ?_,
    t.views, MetricKey.gathered_positions⟩
  · intro es
    constructor
    · exact fun h => h.unique harranged
    · rintro rfl
      exact harranged
  · intro t' hperm
    have hkeys' : t'.keys.Nodup := (hperm.map Prod.fst).nodup_iff.mpr hkeys
    have hsorted : t'.sorted = t.sorted := sortByKey_congr hperm hkeys'
    exact ⟨hsorted, reports_congr hsorted⟩

/-- A key whose test is only the start of another one's. -/
def shortKey : MetricKey := ⟨"a", "c", "", "", ""⟩

/-- A key that would come first if the fields were written one behind the other. -/
def longKey : MetricKey := ⟨"ab", "", "", "", ""⟩

/-- A table that has the key of the longer test first. -/
def unsortedTable : Table := ⟨[(longKey, .empty), (shortKey, .empty)]⟩

theorem sorted_views_unsortedTable :
    unsortedTable.sorted = [(shortKey, .empty), (longKey, .empty)] := by
  have hkeys : unsortedTable.keys.Nodup := by decide
  obtain ⟨-, harranged, -⟩ := sorted_views unsortedTable hkeys
  have hbefore : shortKey.Before longKey := MetricKey.lt_iff_before.mp (by decide)
  symm
  rw [← harranged]
  exact ⟨.swap _ _ [], List.pairwise_pair.mpr hbefore⟩

end Table

end BenchCompare
