import BenchCompare.Proofs.Comparison.KeyOrder
import Mathlib.Data.List.Range

/-! # Positions of keys

  A list of keys is gathered by sorting it, each key with its position, and merging
  what then stands under one key.  Sorting is stable, so the positions of a key stay
  in their order.

  * `GroupedBy entries groups`: entries are gathered under increasing keys.
  * `Gathered keys groups`: the keys of a list, each with all positions where it stands.

  Main statement: `MetricKey.gathered_positions`.
-/

namespace BenchCompare

/-- Distinct keys in increasing order, each with all positions where it stands in a list. -/
structure Gathered (keys : List MetricKey) (groups : List (MetricKey × List Nat)) : Prop where
  /-- Each key comes before the next one. -/
  increasing : groups.Pairwise fun g g' => g.1.Before g'.1
  /-- No key is without positions. -/
  nonempty : ∀ g ∈ groups, g.2 ≠ []
  /-- Each position is below the next one of the same key. -/
  ascending : ∀ g ∈ groups, g.2.Pairwise (· < ·)
  /-- The positions of a key are those where it stands. -/
  mem_iff : ∀ g ∈ groups, ∀ i, i ∈ g.2 ↔ keys[i]? = some g.1
  /-- Each position of the list is in one group, once. -/
  partition : (groups.flatMap (·.2)).Perm (List.range keys.length)

/-- Entries are gathered, each group under a key that is below the next one. -/
structure GroupedBy {α : Type} (entries : List (MetricKey × α)) (groups : List (MetricKey × List α)) :
    Prop where
  /-- Each key is below the next one. -/
  increasing : groups.Pairwise fun g g' => g.1 < g'.1
  /-- Nothing is gathered under a key without entries. -/
  nonempty : ∀ g ∈ groups, g.2 ≠ []
  /-- The groups have the entries, in order. -/
  flatten : (groups.flatMap fun g => g.2.map (g.1, ·)) = entries

/-! ### Merging -/

section

variable {α : Type} {entries : List (MetricKey × α)} {groups : List (MetricKey × List α)}

/-- An entry whose key is below all others has a group of its own. -/
theorem GroupedBy.start (h : GroupedBy entries groups) {k : MetricKey} (hlt : ∀ g ∈ groups, k < g.1)
    (x : α) : GroupedBy ((k, x) :: entries) ((k, [x]) :: groups) where
  increasing := List.pairwise_cons.mpr ⟨hlt, h.increasing⟩
  nonempty := List.forall_mem_cons.mpr ⟨List.cons_ne_nil _ _, h.nonempty⟩
  flatten := by
    rw [← h.flatten]
    rfl

/-- An entry with the first key goes to its group. -/
theorem GroupedBy.join {k : MetricKey} {xs : List α} (h : GroupedBy entries ((k, xs) :: groups))
    (x : α) : GroupedBy ((k, x) :: entries) ((k, x :: xs) :: groups) where
  increasing := List.pairwise_cons.mpr (List.pairwise_cons.mp h.increasing)
  nonempty := List.forall_mem_cons.mpr ⟨List.cons_ne_nil _ _, (List.forall_mem_cons.mp h.nonempty).2⟩
  flatten := by
    rw [← h.flatten]
    rfl

/-- The first key is that of an entry. -/
theorem GroupedBy.exists_mem {k : MetricKey} {xs : List α}
    (h : GroupedBy entries ((k, xs) :: groups)) : ∃ x, (k, x) ∈ entries := by
  have hne : xs ≠ [] := h.nonempty (k, xs) List.mem_cons_self
  obtain ⟨x, xs, rfl⟩ := List.exists_cons_of_ne_nil hne
  refine ⟨x, ?_⟩
  rw [← h.flatten]
  exact List.mem_cons_self

theorem groupedBy_groupSorted (h : entries.Pairwise fun a b => a.1 ≤ b.1) :
    GroupedBy entries (groupSorted entries) := by
  induction entries with
  | nil => exact ⟨.nil, List.forall_mem_nil _, rfl⟩
  | cons e entries ih =>
    obtain ⟨k, x⟩ := e
    obtain ⟨hfirst, hrest⟩ := List.pairwise_cons.mp h
    have hgrouped := ih hrest
    rw [groupSorted]
    split
    · next k' xs groups hgroups =>
      rw [hgroups] at hgrouped
      split
      · next heq =>
        subst heq
        exact hgrouped.join x
      · next hne =>
        obtain ⟨y, hy⟩ := hgrouped.exists_mem
        have hlt : k < k' := MetricKey.lt_of_le_of_ne (hfirst _ hy) hne
        have hothers := (List.pairwise_cons.mp hgrouped.increasing).1
        refine hgrouped.start (List.forall_mem_cons.mpr ⟨hlt, ?_⟩) x
        intro g hg
        exact MetricKey.lt_trans hlt (hothers g hg)
    · next hgroups =>
      rw [hgroups] at hgrouped
      exact hgrouped.start (List.forall_mem_nil _) x

/-- What stands under a key are the entries with this key. -/
theorem GroupedBy.mem_iff (h : GroupedBy entries groups) {g : MetricKey × List α} (hg : g ∈ groups)
    (x : α) : x ∈ g.2 ↔ (g.1, x) ∈ entries := by
  rw [← h.flatten, List.mem_flatMap]
  constructor
  · intro hx
    exact ⟨g, hg, List.mem_map_of_mem hx⟩
  · -- The keys of two groups differ, so the entry can be in this one only.
    rintro ⟨g', hg', hx⟩
    obtain ⟨x', hx', heq⟩ := List.mem_map.mp hx
    obtain ⟨hkey, rfl⟩ := Prod.mk.inj heq
    have hne : groups.Pairwise fun g g' => g.1 ≠ g'.1 := h.increasing.imp MetricKey.ne_of_lt
    obtain rfl : g' = g := List.inj_on_of_nodup_map (List.pairwise_map.mpr hne) hg' hg hkey
    exact hx'

/-- A group stands in the entries as it is. -/
theorem GroupedBy.sublist (h : GroupedBy entries groups) {g : MetricKey × List α} (hg : g ∈ groups) :
    (g.2.map (g.1, ·)).Sublist entries := by
  rw [← h.flatten, List.flatMap_def]
  exact List.sublist_flatten_of_mem (List.mem_map_of_mem hg)

theorem GroupedBy.flatMap_snd (h : GroupedBy entries groups) :
    groups.flatMap (·.2) = entries.map (·.2) := by
  rw [← h.flatten, List.map_flatMap]
  simp [Function.comp_def]

end

/-! ### Sorting positions -/

theorem pairwise_zipIdx (keys : List MetricKey) : keys.zipIdx.Pairwise fun a b => a.2 < b.2 := by
  have hrange : (keys.zipIdx.map (·.2)).Pairwise (· < ·) := by
    rw [List.zipIdx_map_snd]
    exact List.pairwise_lt_range'
  exact List.pairwise_map.mp hrange

/-- The positions of a key stay in their order. -/
theorem ascending_sortByKey_zipIdx (keys : List MetricKey) :
    (sortByKey keys.zipIdx).Pairwise fun a b => a.1 = b.1 → a.2 < b.2 := by
  apply List.pairwise_of_forall_sublist
  intro a b hsub hkey
  -- Entries of one key stand as they did before they were sorted.
  have hpair : [a, b].filter (·.1 = a.1) = [a, b] := by
    simp [hkey]
  have hkept := hsub.filter (·.1 = a.1)
  rw [hpair, filter_sortByKey] at hkept
  exact (pairwise_zipIdx keys).forall_sublist (hkept.trans List.filter_sublist)

/-! ### Main statement -/

/-- **Sorting keys and merging equal ones gathers their positions.** -/
theorem MetricKey.gathered_positions (keys : List MetricKey) : Gathered keys (positions keys) := by
  have hgrouped : GroupedBy (sortByKey keys.zipIdx) (positions keys) :=
    groupedBy_groupSorted (pairwise_sortByKey keys.zipIdx)
  have hperm := sortByKey_perm keys.zipIdx
  refine ⟨?_, hgrouped.nonempty, ?_, ?_, ?_⟩
  · exact hgrouped.increasing.imp lt_iff_before.mp
  · intro g hg
    have hgroup := List.pairwise_map.mp ((ascending_sortByKey_zipIdx keys).sublist (hgrouped.sublist hg))
    exact hgroup.imp fun hlt => hlt rfl
  · intro g hg i
    rw [hgrouped.mem_iff hg, hperm.mem_iff, List.mem_zipIdx_iff_getElem?]
  · rw [hgrouped.flatMap_snd]
    have hrange := hperm.map Prod.snd
    rwa [List.zipIdx_map_snd, ← List.range_eq_range'] at hrange

end BenchCompare
