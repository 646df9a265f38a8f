import BenchCompare.Comparison.Report
import BenchCompare.Proofs.Decimal.Fixed
import BenchCompare.Proofs.Run.Format

/-! # What the statistics show

  Counts and numbers are shown without blanks in them.  With a number of places
  that a number can be written with, every table has statistics.

  * `ShowsSide places b side cells`: the cells show one side of a bucket.
  * `StatisticsRow places k b cells`: the cells are a row of the statistics.

  Main statements: `statisticsRow_eq_ok_iff` and `Table.exists_statistics`.
-/

namespace BenchCompare

open Decimal (IsSolid)

/-- A cell shows a number with some places, and `N/A` if there is none.  A number with too many digits
is lost, and a zero is shown. -/
inductive ShowsNumber (places : Int) (x : Float) : String → Prop
  | none (nan : x.isNaN = true) : ShowsNumber places x "N/A"
  | some (number : x.isNaN = false) (least : 0 ≤ places) (most : places ≤ 0x7fffffff)
      (kept : Decimal.isLost places.toNat x = false) :
      ShowsNumber places x (Decimal.fixed places.toNat x)
  | lost (number : x.isNaN = false) (least : 0 ≤ places) (most : places ≤ 0x7fffffff)
      (lost : Decimal.isLost places.toNat x = true) :
      ShowsNumber places x (Decimal.signedZero places.toNat x)

/-- Four cells with the number of samples of a side and its summary. -/
inductive ShowsSide (places : Int) (b : Bucket) (side : Side) : List Text → Prop
  | cells {mean deviation maximum : String} (mean_shown : ShowsNumber places (b.summary side).mean mean)
      (deviation_shown : ShowsNumber places (b.summary side).deviation deviation)
      (maximum_shown : ShowsNumber places (b.summary side).maximum maximum) :
      ShowsSide places b side [toString (b.samples side).length, mean, deviation, maximum]

/-- Cells with the key of a bucket and what there is on its sides. -/
inductive StatisticsRow (places : Int) (k : MetricKey) (b : Bucket) : List Text → Prop
  | cells {left right : List Text} (left_shown : ShowsSide places b .left left)
      (right_shown : ShowsSide places b .right right) :
      StatisticsRow places k b
        ([k.test, k.verb, k.resource, k.subresource, k.percentile] ++ left ++ right)

/-! ### Cells -/

section

variable {places : Int} {x : Float} {b : Bucket} {side : Side} {k : MetricKey}

theorem statisticText_eq_ok_iff {text : String} :
    Layout.statisticText places x = .ok text ↔ ShowsNumber places x text := by
  constructor
  · intro h
    unfold Layout.statisticText at h
    split_ifs at h with hnan hneg hhuge hmany hlost
    · cases h
      exact .none hnan
    · cases h
      exact .lost (by simpa using hnan) (by omega) (by omega) hlost
    · cases h
      exact .some (by simpa using hnan) (by omega) (by omega) (by simpa using hlost)
  · intro h
    unfold Layout.statisticText
    cases h with
    | none nan => rw [if_pos nan]
    | some number least most kept =>
      rw [number, if_neg Bool.false_ne_true, if_neg (by omega), if_neg (by omega), if_neg (by omega),
        kept, if_neg Bool.false_ne_true]
    | lost number least most lost =>
      rw [number, if_neg Bool.false_ne_true, if_neg (by omega), if_neg (by omega), if_neg (by omega),
        if_pos lost]

theorem ShowsNumber.isSolid {text : String} (h : ShowsNumber places x text) : IsSolid text := by
  cases h with
  | none => decide
  | some => exact Decimal.isSolid_fixed _ x
  | lost _ _ _ hlost => exact Decimal.isSolid_signedZero hlost

theorem exists_showsNumber (h : 0 ≤ places) (h' : places ≤ 0x7fffffff) (x : Float) :
    ∃ text, ShowsNumber places x text := by
  cases hnan : x.isNaN with
  | true => exact ⟨_, .none hnan⟩
  | false =>
    cases hlost : Decimal.isLost places.toNat x with
    | true => exact ⟨_, .lost hnan h h' hlost⟩
    | false => exact ⟨_, .some hnan h h' hlost⟩

theorem sideCells_eq_ok_iff {cells : List Text} :
    sideCells places b side = .ok cells ↔ ShowsSide places b side cells := by
  unfold sideCells
  simp only [bind_eq_ok, statisticText_eq_ok_iff]
  constructor
  · rintro ⟨mean, hmean, deviation, hdeviation, maximum, hmaximum, h⟩
    cases h
    exact .cells hmean hdeviation hmaximum
  · intro h
    cases h with
    | cells hmean hdeviation hmaximum => exact ⟨_, hmean, _, hdeviation, _, hmaximum, rfl⟩

theorem exists_showsSide (h : 0 ≤ places) (h' : places ≤ 0x7fffffff) (b : Bucket) (side : Side) :
    ∃ cells, ShowsSide places b side cells := by
  obtain ⟨_, hmean⟩ := exists_showsNumber h h' (b.summary side).mean
  obtain ⟨_, hdeviation⟩ := exists_showsNumber h h' (b.summary side).deviation
  obtain ⟨_, hmaximum⟩ := exists_showsNumber h h' (b.summary side).maximum
  exact ⟨_, .cells hmean hdeviation hmaximum⟩

theorem statisticsRow_eq_ok_iff {row : List Text} :
    statisticsRow places k b = .ok row ↔ StatisticsRow places k b row := by
  unfold statisticsRow
  simp only [bind_eq_ok, sideCells_eq_ok_iff]
  constructor
  · rintro ⟨left, hleft, right, hright, h⟩
    cases h
    exact .cells hleft hright
  · intro h
    cases h with
    | cells hleft hright => exact ⟨_, hleft, _, hright, rfl⟩

/-! ### Tables -/

theorem Table.statistics_eq_ok_iff {t : Table} {text : Text} : t.statistics places = .ok text ↔
    ∃ rows, List.Forall₂ (fun e row => StatisticsRow places e.1 e.2 row) t.sorted rows ∧
      text = Layout.render
        (keyHeaders ++
          (["#L", "AVG L", "STDEV L", "MAX L", "#R", "AVG R", "STDEV R", "MAX R"] : List Text)) rows
        (List.replicate 5 .left ++ List.replicate 8 .right) 0 := by
  unfold Table.statistics Table.statisticsRows
  simp only [bind_eq_ok, mapM_eq_ok (fun e row => statisticsRow_eq_ok_iff)]
  constructor
  · rintro ⟨rows, hrows, h⟩
    cases h
    exact ⟨rows, hrows, rfl⟩
  · rintro ⟨rows, hrows, rfl⟩
    exact ⟨rows, hrows, rfl⟩

/-- With places that a number can be written with, every table has statistics. -/
theorem Table.exists_statistics (h : 0 ≤ places) (h' : places ≤ 0x7fffffff) (t : Table) :
    ∃ text, t.statistics places = .ok text := by
  have hrows : ∃ rows, List.Forall₂ (fun e row => StatisticsRow places e.1 e.2 row) t.sorted rows := by
    rw [exists_forall₂_iff]
    intro e _
    obtain ⟨_, hleft⟩ := exists_showsSide h h' e.2 .left
    obtain ⟨_, hright⟩ := exists_showsSide h h' e.2 .right
    exact ⟨_, .cells hleft hright⟩
  obtain ⟨rows, hrows⟩ := hrows
  exact ⟨_, statistics_eq_ok_iff.mpr ⟨rows, hrows, rfl⟩⟩

end

end BenchCompare
