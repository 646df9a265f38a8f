import BenchCompare.Proofs.Comparison.Completion
import BenchCompare.Proofs.Comparison.Delivery
import Mathlib.Data.List.Basic

/-! # Raising the threshold only removes data

  The least count decides which items are kept, and nothing else.  An item that
  is kept under some threshold is kept under every lower one, so what is taken in
  under the higher threshold is taken in under the lower one too, in the same
  order.  Whether a count can be read does not depend on the threshold at all.

  * `Table.Within t' t`: `t` has the buckets of `t'`, and on each side of them the
    samples of `t'` in their order.
  * `Job.Uncounted job`: no item of the job says how many requests stand behind it.

  Main statement: `raising_threshold_removes`.
-/

namespace BenchCompare

/-- Everything that a table holds is held by another one, in the same order. -/
structure Table.Within (t' t : Table) : Prop where
  /-- No bucket is new. -/
  keys : ∀ k ∈ t'.keys, k ∈ t.keys
  /-- No sample is new, and none has changed its place among the others. -/
  samples : ∀ k side, ((t'.getD k).samples side).Sublist ((t.getD k).samples side)

/-- No item has a label that counts its requests. -/
def Job.Uncounted (job : Job) : Prop :=
  ∀ run ∈ job, ∀ entry ∈ run, ∀ group ∈ entry.2, ∀ item ∈ group.items,
    item.labels.lookup ("Count" : Text) = none

/-! ### Items -/

namespace DataItem

variable {m m' : Int} {item : DataItem}

/-- What is high enough for a threshold is high enough for a lower one. -/
theorem IsKept.of_le (h : item.IsKept m') (hle : m ≤ m') : item.IsKept m := by
  rcases h with hempty | ⟨n, hdenotes, hlow, hhigh, hmin⟩
  · exact .inl hempty
  · have hmin' : m ≤ n := by omega
    exact .inr ⟨n, hdenotes, hlow, hhigh, hmin'⟩

theorem isKept_of_uncounted (h : item.labels.lookup ("Count" : Text) = none) (m : Int) : item.IsKept m := by
  have hempty : item.label "Count" = "" := by simp [label, h]
  exact .inl hempty

end DataItem

/-! ### What is taken in -/

section

variable {m m' : Int}

theorem intake_sublist (hle : m ≤ m') (items : List (Text × DataItem)) :
    (intake m' items).Sublist (intake m items) := by
  induction items with
  | nil => exact List.Sublist.refl _
  | cons e rest ih =>
    obtain ⟨test, item⟩ := e
    cases hr : item.refusal? with
    | some d =>
      -- Under both thresholds nothing is taken in from here on.
      rw [intake_cons_of_some hr, intake_cons_of_some hr]
    | none =>
      rw [intake_cons_of_none hr, intake_cons_of_none hr]
      refine List.Sublist.append ?_ ih
      by_cases hkept : item.IsKept m'
      · have hkept' : item.IsKept m := hkept.of_le hle
        rw [if_pos hkept, if_pos hkept']
      · rw [if_neg hkept]
        exact List.nil_sublist _

theorem samplesFor_sublist (k : MetricKey) {xs ys : List (MetricKey × Float)} (h : xs.Sublist ys) :
    (samplesFor k xs).Sublist (samplesFor k ys) :=
  h.filterMap _

/-- Items without counts are taken in under any threshold. -/
theorem intake_of_uncounted {items : List (Text × DataItem)}
    (h : ∀ e ∈ items, e.2.labels.lookup ("Count" : Text) = none) (m m' : Int) :
    intake m items = intake m' items := by
  induction items with
  | nil => rfl
  | cons e rest ih =>
    obtain ⟨test, item⟩ := e
    obtain ⟨hitem, hrest⟩ := List.forall_mem_cons.mp h
    cases hr : item.refusal? with
    | some d => rw [intake_cons_of_some hr, intake_cons_of_some hr]
    | none =>
      have hkept := DataItem.isKept_of_uncounted hitem
      rw [intake_cons_of_none hr, intake_cons_of_none hr, if_pos (hkept m), if_pos (hkept m'), ih hrest]

end

theorem Job.Uncounted.items {job : Job} (h : job.Uncounted) :
    ∀ e ∈ job.items, e.2.labels.lookup ("Count" : Text) = none := by
  intro e he
  obtain ⟨run, hrun, entry, hentry, group, hgroup, item, hitem, rfl⟩ := Job.mem_items.mp he
  exact h run hrun entry hentry group hgroup item hitem

/-! ### Tables -/

theorem Bucket.samples_append_sublist {b b' : Bucket} {xs xs' : List Float} (side : Side)
    (hb : ∀ s, (b'.samples s).Sublist (b.samples s)) (hxs : xs'.Sublist xs) (s : Side) :
    ((b'.append side xs').samples s).Sublist ((b.append side xs).samples s) := by
  by_cases hs : s = side
  · subst hs
    simpa using (hb s).append hxs
  · obtain rfl := Side.eq_other_of_ne hs
    simpa using hb side.other

namespace Table

/-- Adding less to less gives less. -/
theorem Within.addSamples {t t' : Table} (h : Within t' t) (side : Side)
    {xs xs' : List (MetricKey × Float)} (hxs : xs'.Sublist xs) :
    Within (t'.addSamples side xs') (t.addSamples side xs) where
  keys k hk := by
    rw [mem_keys_addSamples] at hk ⊢
    refine hk.imp (h.keys k) ?_
    intro hnew hnone
    have hsub := samplesFor_sublist k hxs
    rw [hnone] at hsub
    exact hnew (List.sublist_nil.mp hsub)
  samples k s := by
    rw [getD_addSamples, getD_addSamples]
    exact Bucket.samples_append_sublist side (h.samples k) (samplesFor_sublist k hxs) s

theorem Within.refl (t : Table) : Within t t := ⟨fun _ hk => hk, fun _ _ => List.Sublist.refl _⟩

theorem within_ofJobs (left right : Job) {m m' : Int} (hle : m ≤ m') :
    Within (ofJobs left right m').table (ofJobs left right m).table := by
  have hleft := (Within.refl empty).addSamples .left (intake_sublist hle left.items)
  rw [table_ofJobs, table_ofJobs]
  split
  · exact hleft.addSamples .right (intake_sublist hle right.items)
  · exact hleft.addSamples .right (List.Sublist.refl [])

/-! ### Main statement -/

/-- **Raising the threshold only removes data**: the comparison completes under both thresholds or under
neither, and the table under the higher one is part of that under the lower one.  Where nothing is
counted, nothing is removed. -/
theorem raising_threshold_removes (left right : Job) {m m' : Int} (hle : m ≤ m') :
    ((ofJobs left right m).stoppedBy = none ↔ (ofJobs left right m').stoppedBy = none) ∧
    Within (ofJobs left right m').table (ofJobs left right m).table ∧
    (left.Uncounted → right.Uncounted →
      (ofJobs left right m').table = (ofJobs left right m).table) := by
  refine ⟨?_, within_ofJobs left right hle, ?_⟩
  · rw [stoppedBy_ofJobs, stoppedBy_ofJobs]
  · intro hleft hright
    rw [table_ofJobs, table_ofJobs, intake_of_uncounted hleft.items m' m,
      intake_of_uncounted hright.items m' m]

/-- From nine to ten requests the item with nine of them is lost, between two that stay. -/
theorem raising_threshold_removes_exampleJob :
    (9 : Int) ≤ 10 ∧ (ofJobs exampleJob [] 10).stoppedBy = none ∧
      Within (ofJobs exampleJob [] 10).table (ofJobs exampleJob [] 9).table ∧
      ((ofJobs exampleJob [] 9).table.getD ⟨"Density", "LIST", "", "", "Perc50"⟩).left = [1, 2, 3] ∧
      ((ofJobs exampleJob [] 10).table.getD ⟨"Density", "LIST", "", "", "Perc50"⟩).left = [1, 3] := by
  have hle : (9 : Int) ≤ 10 := by decide
  obtain ⟨hcompletes, hwithin, -⟩ := raising_threshold_removes exampleJob [] hle
  have hnine : (ofJobs exampleJob [] 9).stoppedBy = none := by decide +kernel
  exact ⟨hle, hcompletes.mp hnine, hwithin, by decide +kernel, by decide +kernel⟩

end Table

end BenchCompare
