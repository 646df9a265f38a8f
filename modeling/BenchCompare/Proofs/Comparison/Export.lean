import BenchCompare.Comparison.Report
import BenchCompare.Proofs.Comparison.Order
import BenchCompare.Proofs.Csv.RoundTrip
import BenchCompare.Proofs.Decimal.Fixed

/-! # The export loses nothing

  A reader that knows nothing but the rules of comma-separated records gets the
  names of the columns and, for each bucket in the order of the keys, fifteen
  fields that say what the bucket holds.  Labels and comments may be any texts.

  * `Describes k b row`: the fields of `row` are those of the bucket `b` of `k`.

  Main statement: `exported_faithful`.
-/

namespace BenchCompare

/-! ### What a record says -/

/-- A cell that shows a number, and is empty exactly if there is none. -/
structure ShowsStatistic (x : Float) (cell : List CodePoint) : Prop where
  /-- Only what is not a number leaves the cell empty. -/
  empty_iff : cell = [] ↔ x.isNaN = true
  /-- Any other number is shown with six places. -/
  shown : x.isNaN = false → cell = (Decimal.fixed 6 x : Text).toList

/-- Fifteen fields that say what the bucket `b` of `k` holds. -/
inductive Describes (k : MetricKey) (b : Bucket) : Csv.Record → Prop
  | fields {meanL deviationL maximumL meanR deviationR maximumR : List CodePoint}
      (mean_left : ShowsStatistic b.leftSummary.mean meanL)
      (deviation_left : ShowsStatistic b.leftSummary.deviation deviationL)
      (maximum_left : ShowsStatistic b.leftSummary.maximum maximumL)
      (mean_right : ShowsStatistic b.rightSummary.mean meanR)
      (deviation_right : ShowsStatistic b.rightSummary.deviation deviationR)
      (maximum_right : ShowsStatistic b.rightSummary.maximum maximumR) :
      Describes k b [k.test.toList, k.verb.toList, k.resource.toList, k.subresource.toList,
        k.percentile.toList, (Nat.toDigits 10 b.left.length).map .char, meanL, deviationL, maximumL,
        (Nat.toDigits 10 b.right.length).map .char, meanR, deviationR, maximumR,
        (if b.matched then "True" else "False" : Text).toList, b.comments.toList]

theorem Describes.length_eq {k : MetricKey} {b : Bucket} {row : Csv.Record} (h : Describes k b row) :
    row.length = 15 := by
  cases h
  rfl

/-! ### Cells and rows -/

theorem showsStatistic_exportedText (x : Float) :
    ShowsStatistic x (Layout.exportedText x : Text).toList := by
  unfold Layout.exportedText
  by_cases hx : x.isNaN = true
  · rw [if_pos hx]
    exact ⟨iff_of_true rfl hx, fun h => absurd hx (ne_true_of_eq_false h)⟩
  · rw [if_neg hx]
    refine ⟨?_, fun _ => rfl⟩
    rw [Text.toList_eq_nil_iff, Text.ofString_inj]
    exact iff_of_false (Decimal.fixed_ne_empty 6 x) hx

theorem describes_exportRow (k : MetricKey) (b : Bucket) :
    Describes k b ((exportRow k b).map Text.toList) := by
  have hcount : ∀ n : Nat, (toString n).toList = Nat.toDigits 10 n := fun n => Nat.toList_repr
  have hrow := Describes.fields (k := k) (b := b) (showsStatistic_exportedText _)
    (showsStatistic_exportedText _) (showsStatistic_exportedText _) (showsStatistic_exportedText _)
    (showsStatistic_exportedText _) (showsStatistic_exportedText _)
  rw [← hcount, ← hcount] at hrow
  exact hrow

namespace Table

theorem exportRows_ne_nil {t : Table} {row : Csv.Record}
    (h : row ∈ t.exportRows.map fun row => row.map Text.toList) : row ≠ [] := by
  rw [List.mem_map] at h
  obtain ⟨cells, hcells, rfl⟩ := h
  rcases List.mem_cons.mp hcells with rfl | hcells
  · decide
  · obtain ⟨e, -, rfl⟩ := List.mem_map.mp hcells
    exact List.cons_ne_nil _ _

theorem read_exported (t : Table) :
    Csv.read t.exported.toList = some (t.exportRows.map fun row => row.map Text.toList) := by
  exact Csv.read_write fun _ => exportRows_ne_nil

/-! ### Main statement -/

/-- **The export loses nothing**: its text is read back as the names of the columns and one record
for each bucket, in the order of the keys, that says what the bucket holds.  So tables with
different rows have different exports. -/
theorem exported_faithful (t : Table) :
    (∃ rows, Csv.read t.exported.toList = some (exportColumns.map Text.toList :: rows) ∧
      exportColumns.length = 15 ∧
      List.Forall₂ (fun e row => Describes e.1 e.2 row ∧ row.length = 15) t.sorted rows) ∧
    t.sorted.Perm t.entries ∧ t.sorted.Pairwise (fun a b => a.1 ≤ b.1) ∧
    (t.keys.Nodup → t.sorted.Pairwise fun a b => a.1 < b.1) ∧
    (∀ t' : Table, t.exportRows ≠ t'.exportRows → t.exported ≠ t'.exported) := by
  refine ⟨⟨_, t.read_exported, rfl, ?_⟩, t.sorted_perm, t.pairwise_sorted, pairwise_lt_sorted, ?_⟩
  · rw [List.map_map, List.forall₂_map_right_iff, List.forall₂_same]
    intro e _
    have hrow := describes_exportRow e.1 e.2
    exact ⟨hrow, hrow.length_eq⟩
  · intro t' hne heq
    apply hne
    have hread := congrArg Csv.read (congrArg Text.toList heq)
    rw [read_exported, read_exported, Option.some.injEq] at hread
    have hinj : Function.Injective fun row : List Text => row.map Text.toList :=
      List.map_injective_iff.mpr fun _ _ => Text.toList_injective
    exact List.map_injective_iff.mpr hinj hread

/-- A metric whose names and comment have every character that a field is quoted for. -/
def awkwardTable : Table :=
  empty.setVerdict ⟨"a,b", " \"GET\" ", "", "\r\n", ","⟩ true "say \"no\",\r\nthen go"

theorem exported_faithful_awkwardTable :
    awkwardTable.keys.Nodup ∧ awkwardTable.sorted.Pairwise (fun a b => a.1 < b.1) ∧
      Csv.read awkwardTable.exported.toList = some [exportColumns.map Text.toList,
        (["a,b", " \"GET\" ", "", "\r\n", ",", "0", "", "", "", "0", "", "", "", "True",
          "say \"no\",\r\nthen go"] : List Text).map Text.toList] ∧
      awkwardTable.exported ≠ empty.exported := by
  have hkeys : awkwardTable.keys.Nodup := by decide +kernel
  have hread : awkwardTable.exportRows = [exportColumns,
      ["a,b", " \"GET\" ", "", "\r\n", ",", "0", "", "", "", "0", "", "", "", "True",
        "say \"no\",\r\nthen go"]] := by
    have hsorted : awkwardTable.sorted = awkwardTable.entries := List.mergeSort_singleton _
    have hnan : Layout.exportedText nan = "" := if_pos (by decide)
    rw [exportRows, hsorted]
    show [exportColumns, [_, _, _, _, _, _, Layout.exportedText nan, Layout.exportedText nan,
      Layout.exportedText nan, _, Layout.exportedText nan, Layout.exportedText nan,
      Layout.exportedText nan, _, _]] = _
    rw [hnan]
    rfl
  have hrows : awkwardTable.exportRows ≠ empty.exportRows := by decide +kernel
  obtain ⟨-, -, -, hsorted, hexported⟩ := exported_faithful awkwardTable
  refine ⟨hkeys, hsorted hkeys, ?_, hexported empty hrows⟩
  rw [read_exported, hread]
  rfl

end Table

end BenchCompare
