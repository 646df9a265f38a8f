import BenchCompare.Proofs.Comparison.View
import Mathlib.Data.List.Lex
import Mathlib.Data.List.Nodup
import BenchCompare.Proofs.Text.Order

/-! # The order of reports

  Keys are linearly ordered, so sorting leaves no choice: the sorted entries of
  a table depend on its two views only, not on the order in which its buckets
  were made.

  * `sortByKey_congr`: sorting entries with different keys leaves no choice.
  * `Table.sorted_congr`: tables that hold the same are shown in the same order.
-/

namespace BenchCompare

/-! ### The order of keys -/

namespace MetricKey

theorem le_iff (a b : MetricKey) : a ≤ b ↔ a.fields ≤ b.fields := by
  show ¬ b.fields < a.fields ↔ a.fields ≤ b.fields
  exact not_lt

theorem le_refl (k : MetricKey) : k ≤ k := by
  rw [le_iff]

theorem le_trans {a b c : MetricKey} (hab : a ≤ b) (hbc : b ≤ c) : a ≤ c := by
  rw [le_iff] at *
  exact hab.trans hbc

theorem le_total (a b : MetricKey) : a ≤ b ∨ b ≤ a := by
  rw [le_iff, le_iff]
  exact LinearOrder.le_total a.fields b.fields

theorem le_antisymm {a b : MetricKey} (hab : a ≤ b) (hba : b ≤ a) : a = b := by
  rw [le_iff] at hab hba
  exact fields_injective (hab.antisymm hba)

/-- Of two different keys one is below the other. -/
theorem lt_of_le_of_ne {a b : MetricKey} (hle : a ≤ b) (hne : a ≠ b) : a < b := by
  by_contra hlt
  exact hne (le_antisymm hle hlt)

end MetricKey

/-! ### Sorting by key -/

section

variable {α β : Type}

theorem sortByKey_perm (entries : List (MetricKey × α)) : (sortByKey entries).Perm entries :=
  List.mergeSort_perm entries _

theorem decide_le_trans (a b c : MetricKey × α) (hab : decide (a.1 ≤ b.1) = true)
    (hbc : decide (b.1 ≤ c.1) = true) : decide (a.1 ≤ c.1) = true := by
  rw [decide_eq_true_iff] at *
  exact MetricKey.le_trans hab hbc

theorem decide_le_total (a b : MetricKey × α) :
    (decide (a.1 ≤ b.1) || decide (b.1 ≤ a.1)) = true := by
  rw [Bool.or_eq_true, decide_eq_true_iff, decide_eq_true_iff]
  exact MetricKey.le_total a.1 b.1

theorem pairwise_sortByKey (entries : List (MetricKey × α)) :
    (sortByKey entries).Pairwise fun a b => a.1 ≤ b.1 := by
  have hsorted : (sortByKey entries).Pairwise fun a b => decide (a.1 ≤ b.1) = true :=
    List.pairwise_mergeSort decide_le_trans decide_le_total entries
  simpa only [decide_eq_true_iff] using hsorted

/-- Sorting is stable: entries of one key stay in the order in which they came. -/
theorem filter_sortByKey (entries : List (MetricKey × α)) (k : MetricKey) :
    (sortByKey entries).filter (·.1 = k) = entries.filter (·.1 = k) := by
  have hsame : (entries.filter (·.1 = k)).Pairwise fun a b => decide (a.1 ≤ b.1) = true := by
    apply List.pairwise_of_forall_mem_list
    intro a ha b hb
    have ha' : a.1 = k := by simpa using (List.mem_filter.mp ha).2
    have hb' : b.1 = k := by simpa using (List.mem_filter.mp hb).2
    rw [ha', hb', decide_eq_true_iff]
    exact MetricKey.le_refl k
  have hsorted : (entries.filter (·.1 = k)).Sublist (sortByKey entries) :=
    List.sublist_mergeSort decide_le_trans decide_le_total hsame List.filter_sublist
  have hfilter := hsorted.filter (·.1 = k)
  simp only [List.filter_filter, Bool.and_self] at hfilter
  exact (hfilter.eq_of_length ((sortByKey_perm entries).filter _).length_eq.symm).symm

/-- Sorting leaves no choice between entries with different keys. -/
theorem sortByKey_congr {entries entries' : List (MetricKey × α)} (h : entries.Perm entries')
    (hkeys : (entries.map (·.1)).Nodup) : sortByKey entries = sortByKey entries' := by
  have hperm : (sortByKey entries).Perm (sortByKey entries') :=
    (sortByKey_perm entries).trans (h.trans (sortByKey_perm entries').symm)
  refine hperm.eq_of_pairwise ?_ (pairwise_sortByKey entries) (pairwise_sortByKey entries')
  intro a b ha hb hab hba
  have ha' : a ∈ entries := (sortByKey_perm entries).mem_iff.mp ha
  have hb' : b ∈ entries := h.mem_iff.mpr ((sortByKey_perm entries').mem_iff.mp hb)
  exact List.inj_on_of_nodup_map hkeys ha' hb' (MetricKey.le_antisymm hab hba)

/-- What stands under the keys does not matter for their order. -/
theorem sortByKey_map (f : α → β) (entries : List (MetricKey × α)) :
    sortByKey (entries.map fun e => (e.1, f e.2)) = (sortByKey entries).map fun e => (e.1, f e.2) := by
  unfold sortByKey
  rw [List.map_mergeSort]
  intro a _ b _
  rfl

end

namespace Table

theorem sorted_perm (t : Table) : t.sorted.Perm t.entries := sortByKey_perm t.entries

theorem pairwise_sorted (t : Table) : t.sorted.Pairwise fun a b => a.1 ≤ b.1 :=
  pairwise_sortByKey t.entries

/-- If no key has two buckets, each key is below the next one. -/
theorem pairwise_lt_sorted {t : Table} (h : t.keys.Nodup) :
    t.sorted.Pairwise fun a b => a.1 < b.1 := by
  have hkeys : (t.sorted.map (·.1)).Nodup := (t.sorted_perm.map Prod.fst).nodup_iff.mpr h
  have hne : t.sorted.Pairwise fun a b => a.1 ≠ b.1 := List.pairwise_map.mp hkeys
  exact (t.pairwise_sorted.and hne).imp fun hab => MetricKey.lt_of_le_of_ne hab.1 hab.2

/-! ### Tables that hold the same -/

/-- If no key has two buckets, the entries are the keys with what look-up finds. -/
theorem entries_eq {t : Table} (h : t.keys.Nodup) : t.entries = t.keys.map fun k => (k, t.getD k) := by
  obtain ⟨es⟩ := t
  simp only [keys, getD, get?] at h ⊢
  induction es with
  | nil => rfl
  | cons e es ih =>
    obtain ⟨k, b⟩ := e
    rw [List.map_cons, List.nodup_cons] at h
    obtain ⟨hnew, hes⟩ := h
    have hrest : ∀ k' ∈ es.map (·.1), ((k, b) :: es).lookup k' = es.lookup k' := by
      intro k' hk'
      have hne : k' ≠ k := by
        rintro rfl
        exact hnew hk'
      rw [List.lookup_cons, beq_false_of_ne hne]
    rw [List.map_cons, List.map_cons, List.lookup_cons_self]
    refine congrArg _ ((ih hes).trans (List.map_congr_left ?_))
    intro k' hk'
    rw [hrest k' hk']

/-- A table whose buckets come from those of another one is shown in the same order. -/
theorem sorted_eq_map (f : Bucket → Bucket) {t t' : Table} (h : t.keys.Nodup) (h' : t'.keys.Nodup)
    (hkeys : ∀ k, k ∈ t'.keys ↔ k ∈ t.keys) (hbuckets : ∀ k, t'.getD k = f (t.getD k)) :
    t'.sorted = t.sorted.map fun e => (e.1, f e.2) := by
  have hperm : t'.keys.Perm t.keys := (List.perm_ext_iff_of_nodup h' h).mpr hkeys
  rw [sorted, sorted, ← sortByKey_map]
  apply sortByKey_congr _ h'
  rw [entries_eq h, entries_eq h', List.map_map, funext hbuckets]
  exact hperm.map _

/-- Tables that hold the same are shown in the same order. -/
theorem sorted_congr {t t' : Table} (h : t.keys.Nodup) (h' : t'.keys.Nodup)
    (hkeys : ∀ k, k ∈ t'.keys ↔ k ∈ t.keys) (hbuckets : ∀ k, t'.getD k = t.getD k) :
    t'.sorted = t.sorted := by
  have hmap := sorted_eq_map id h h' hkeys hbuckets
  rwa [show (fun e : MetricKey × Bucket => (e.1, id e.2)) = id from rfl, List.map_id] at hmap

end Table

end BenchCompare
