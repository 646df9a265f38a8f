import BenchCompare.Proofs.Comparison.History
import BenchCompare.Proofs.Sample.Maximum

/-! # What holds of every table

  However a table came about, whether its steps failed or not:

  * its samples are numbers (`Table.Sound.numbers`),
  * no key has two buckets (`Table.Sound.nodup`),
  * a bucket without samples was made by a verdict (`exists_verdict_of_empty`).

  The first two are kept by every step.  The third one looks back at the step
  that made the bucket: a step that adds samples makes a bucket only for a
  sample, and no sample is ever lost.

  Main statement: `representation_sound`.  In a table that was just summarised,
  a maximum that is no number stands for a side without samples.
-/

namespace BenchCompare

namespace Table

/-! ### The invariant -/

/-- The samples are numbers, and each key has one bucket. -/
structure Sound (t : Table) : Prop where
  /-- No sample is a NaN. -/
  numbers : ∀ k side, ∀ x ∈ (t.getD k).samples side, x.isNaN = false
  /-- No key has two buckets. -/
  nodup : t.keys.Nodup

theorem sound_empty : Sound empty where
  numbers k side x hx := by
    rw [getD_empty, Bucket.samples_empty] at hx
    cases hx
  nodup := List.nodup_nil

theorem isNaN_of_mem_samplesFor {k : MetricKey} {xs : List (MetricKey × Float)} {x : Float}
    (h : x ∈ samplesFor k xs) : x.isNaN = false := by
  obtain ⟨⟨k', y⟩, -, hy⟩ := List.mem_filterMap.mp h
  dsimp only at hy
  split at hy
  · next hnumber =>
    cases hy
    exact hnumber.2
  · cases hy

variable {t : Table}

theorem Sound.addSamples (h : t.Sound) (side : Side) (xs : List (MetricKey × Float)) :
    (t.addSamples side xs).Sound where
  numbers k other x hx := by
    rw [getD_addSamples] at hx
    by_cases hside : other = side
    · subst hside
      rw [Bucket.samples_append] at hx
      rcases List.mem_append.mp hx with hold | hnew
      · exact h.numbers k other x hold
      · exact isNaN_of_mem_samplesFor hnew
    · rw [Side.eq_other_of_ne hside, Bucket.samples_append_other] at hx
      exact h.numbers k _ x hx
  nodup := nodup_keys_addSamples side xs h.nodup

theorem Sound.summarise (h : t.Sound) : t.summarise.Sound where
  numbers k side x hx := by
    rw [getD_summarise, Bucket.samples_summarise] at hx
    exact h.numbers k side x hx
  nodup := by
    rw [keys_summarise]
    exact h.nodup

theorem Sound.setVerdict (h : t.Sound) (k : MetricKey) (m : Bool) (c : Text) :
    (t.setVerdict k m c).Sound where
  numbers k' side x hx := by
    rw [getD_setVerdict] at hx
    split at hx
    · next heq =>
      rw [Bucket.samples_judge] at hx
      exact h.numbers k side x hx
    · exact h.numbers k' side x hx
  nodup := nodup_keys_update k _ h.nodup

/-- Every step keeps the invariant, also one that fails. -/
theorem Sound.step (h : t.Sound) (s : Step) : (t.step s).table.Sound := by
  rcases step_cases t s with ⟨side, -, hs⟩ | ⟨-, hs⟩ | ⟨k, m, c, -, hs⟩
  · rw [hs]
    exact h.addSamples side _
  · rw [hs]
    exact h.summarise
  · rw [hs]
    exact h.setVerdict k m c

theorem Sound.run (h : t.Sound) (steps : List Step) : (t.run steps).Sound := by
  induction steps generalizing t with
  | nil => exact h
  | cons s steps ih => exact ih (h.step s)

/-! ### Buckets without samples -/

/-- A verdict of a history made the bucket of a metric. -/
def MadeByVerdict (k : MetricKey) (steps : List Step) : Prop :=
  ∃ before m c after, steps = before ++ .verdict k m c :: after ∧ k ∉ (empty.run before).keys

theorem MadeByVerdict.append {k : MetricKey} {steps : List Step} (h : MadeByVerdict k steps)
    (s : Step) : MadeByVerdict k (steps ++ [s]) := by
  obtain ⟨before, m, c, after, rfl, hnew⟩ := h
  refine ⟨before, m, c, after ++ [s], ?_, hnew⟩
  rw [List.append_assoc, List.cons_append]

/-- A step that makes a bucket without samples sets a verdict. -/
theorem eq_verdict_of_new {s : Step} {k : MetricKey} (hnew : k ∉ t.keys)
    (hk : k ∈ (t.step s).table.keys) (hempty : ∀ side, ((t.step s).table.getD k).samples side = []) :
    ∃ m c, s = .verdict k m c := by
  rcases step_cases t s with ⟨side, -, hs⟩ | ⟨-, hs⟩ | ⟨k', m, c, rfl, hs⟩
  · -- The bucket would hold the sample that it was made for.
    rw [hs, mem_keys_addSamples] at hk
    have hsample : samplesFor k s.added ≠ [] := hk.resolve_left hnew
    have hlost := hempty side
    rw [hs, getD_addSamples, Bucket.samples_append, List.append_eq_nil_iff] at hlost
    exact absurd hlost.2 hsample
  · rw [hs, keys_summarise] at hk
    exact absurd hk hnew
  · rw [hs, mem_keys_setVerdict] at hk
    have hkey : k = k' := hk.resolve_left hnew
    subst hkey
    exact ⟨m, c, rfl⟩

theorem run_concat (t : Table) (steps : List Step) (s : Step) :
    t.run (steps ++ [s]) = ((t.run steps).step s).table := by
  rw [run_append, run_cons, run_nil]

/-- Looking back from a bucket without samples, there is the verdict that made it. -/
theorem madeByVerdict_of_empty (steps : List Step) {k : MetricKey}
    (hk : k ∈ (empty.run steps).keys)
    (hempty : ∀ side, ((empty.run steps).getD k).samples side = []) : MadeByVerdict k steps := by
  induction steps using List.reverseRecOn with
  | nil => cases hk
  | append_singleton steps s ih =>
    rw [run_concat] at hk hempty
    by_cases hold : k ∈ (empty.run steps).keys
    · -- It had no samples before the step either.
      have hbefore : ∀ side, ((empty.run steps).getD k).samples side = [] := by
        intro side
        have hprefix := samples_step (empty.run steps) s k side
        rw [hempty side] at hprefix
        exact List.prefix_nil.mp hprefix
      exact (ih hold hbefore).append s
    · obtain ⟨m, c, rfl⟩ := eq_verdict_of_new hold hk hempty
      exact ⟨steps, m, c, [], rfl, hold⟩

/-! ### Main statement -/

/-- **What holds of every table**, however it came about; and of the same table, just summarised. -/
theorem representation_sound (steps : List Step) :
    (∀ k side, ∀ x ∈ ((empty.run steps).getD k).samples side, x.isNaN = false) ∧
    (empty.run steps).keys.Nodup ∧
    (∀ k ∈ (empty.run steps).keys,
      ((empty.run steps).getD k).left = [] → ((empty.run steps).getD k).right = [] →
        MadeByVerdict k steps) ∧
    (∀ k side, let b := (empty.run (steps ++ [.summarise])).getD k
      ((b.summary side).maximum.isNaN = true ↔ b.samples side = []) ∧
      (b.samples side ≠ [] → (b.summary side).maximum ∈ b.samples side)) := by
  have hsound : (empty.run steps).Sound := sound_empty.run steps
  refine ⟨hsound.numbers, hsound.nodup, ?_, ?_⟩
  · intro k hk hleft hright
    refine madeByVerdict_of_empty steps hk ?_
    intro side
    cases side with
    | left => exact hleft
    | right => exact hright
  · intro k side
    have hnumbers := hsound.numbers k side
    dsimp only
    rw [run_summarise, getD_summarise, Bucket.samples_summarise, Bucket.summary_summarise]
    exact ⟨Summary.isNaN_maximum_iff hnumbers, fun hne => Summary.maximum_mem hne hnumbers⟩

/-- One metric has a sample that is no number and one that is, another one has a verdict only. -/
def mixedHistory : List Step :=
  [.sample exampleKey .left nan, .verdict ⟨"T", "GET", "", "", "Perc50"⟩ true "",
    .sample exampleKey .left negInfinity]

/-- The bucket without samples is that of the verdict; the maximum of the other one is its sample. -/
theorem representation_sound_mixedHistory :
    MadeByVerdict ⟨"T", "GET", "", "", "Perc50"⟩ mixedHistory ∧
      ((empty.run (mixedHistory ++ [.summarise])).getD exampleKey).samples .left = [negInfinity] ∧
      (((empty.run (mixedHistory ++ [.summarise])).getD exampleKey).summary .left).maximum ∈
        ((empty.run (mixedHistory ++ [.summarise])).getD exampleKey).samples .left := by
  obtain ⟨-, -, hmade, hmaximum⟩ := representation_sound mixedHistory
  have hsamples : ((empty.run (mixedHistory ++ [.summarise])).getD exampleKey).samples .left =
      [negInfinity] := by decide +kernel
  refine ⟨?_, hsamples, ?_⟩
  · exact hmade _ (by decide +kernel) (by decide +kernel) (by decide +kernel)
  · apply (hmaximum exampleKey .left).2
    rw [hsamples]
    exact List.cons_ne_nil _ _

end Table

end BenchCompare
