import BenchCompare.Proofs.Comparison.Intake

/-! # Summaries along a history

  The summaries of a bucket are those of the samples that it held when the table
  was last summarised; samples that came later do not show in them.  This is a
  statement about a whole history.  It rests on what one step does to the two
  views of a table:

  * keys and samples are only ever added, the samples at the end;
  * summaries are touched by `Step.summarise` alone.
-/

namespace BenchCompare

/-! ### Steps that add samples -/

namespace Step

/-- The side on which a step adds samples, if it adds any. -/
def side? : Step → Option Side
  | .sample _ side _ | .item _ _ _ side | .report _ _ _ side | .job _ _ side => some side
  | .summarise | .verdict .. => none

/-- The samples that a step adds.  A step that fails adds those before the failure. -/
def added : Step → List (MetricKey × Float)
  | .sample k _ x => [(k, x)]
  | .item test data min _ => intake min [(test, data)]
  | .report test document min _ =>
    match DataItem.decode document with
    | .ok data => intake min [(test, data)]
    | .error _ => []
  | .job runs min _ => intake min (Job.items runs)
  | .summarise | .verdict .. => []

end Step

namespace Table

/-! ### One step -/

/-- A step adds samples on one side, summarises, or sets a verdict. -/
theorem step_cases (t : Table) (s : Step) :
    (∃ side, s.side? = some side ∧ (t.step s).table = t.addSamples side s.added) ∨
    (s = .summarise ∧ (t.step s).table = t.summarise) ∨
    (∃ k m c, s = .verdict k m c ∧ (t.step s).table = t.setVerdict k m c) := by
  cases s with
  | sample k side x => exact .inl ⟨side, rfl, rfl⟩
  | item test item min side => exact .inl ⟨side, rfl, (ingest_eq min side _ t).1⟩
  | report test document min side =>
    refine .inl ⟨side, rfl, ?_⟩
    simp only [step, Step.added]
    cases DataItem.decode document with
    | ok item => exact (ingest_eq min side _ t).1
    | error fault => rfl
  | job job min side => exact .inl ⟨side, rfl, table_addJob min side job t⟩
  | summarise => exact .inr (.inl ⟨rfl, rfl⟩)
  | verdict k m c => exact .inr (.inr ⟨k, m, c, rfl, rfl⟩)

theorem keys_step (t : Table) (s : Step) : t.keys <+: (t.step s).table.keys := by
  rcases step_cases t s with ⟨side, -, hs⟩ | ⟨-, hs⟩ | ⟨k, m, c, -, hs⟩
  · rw [hs]
    exact keys_isPrefix_addSamples side _ t
  · have hkeys : (t.step s).table.keys = t.keys := by rw [hs, keys_summarise]
    exact ⟨[], by rw [List.append_nil, hkeys]⟩
  · rw [hs]
    exact keys_isPrefix_update k _ t

theorem samples_step (t : Table) (s : Step) (k : MetricKey) (side : Side) :
    (t.getD k).samples side <+: ((t.step s).table.getD k).samples side := by
  rcases step_cases t s with ⟨side', -, hs⟩ | ⟨-, hs⟩ | ⟨k', m, c, -, hs⟩
  · rw [hs, getD_addSamples]
    exact Bucket.samples_isPrefix_append side' side _ _
  · rw [hs, getD_summarise]
    exact ⟨[], by rw [Bucket.samples_summarise, List.append_nil]⟩
  · rw [hs, getD_setVerdict]
    split
    · next h => exact ⟨[], by rw [h, Bucket.samples_judge, List.append_nil]⟩
    · exact ⟨[], List.append_nil _⟩

theorem summary_step (t : Table) {s : Step} (h : s ≠ .summarise) (k : MetricKey) (side : Side) :
    ((t.step s).table.getD k).summary side = (t.getD k).summary side := by
  rcases step_cases t s with ⟨side', -, hs⟩ | ⟨rfl, -⟩ | ⟨k', m, c, -, hs⟩
  · rw [hs, getD_addSamples, Bucket.summary_append]
  · exact absurd rfl h
  · rw [hs, getD_setVerdict]
    split
    · next h => rw [h, Bucket.summary_judge]
    · rfl

/-! ### Many steps -/

theorem keys_run (t : Table) (steps : List Step) : t.keys <+: (t.run steps).keys := by
  induction steps generalizing t with
  | nil => exact List.prefix_rfl
  | cons s steps ih => exact (keys_step t s).trans (ih _)

theorem samples_run (t : Table) (steps : List Step) (k : MetricKey) (side : Side) :
    (t.getD k).samples side <+: ((t.run steps).getD k).samples side := by
  induction steps generalizing t with
  | nil => exact List.prefix_rfl
  | cons s steps ih => exact (samples_step t s k side).trans (ih _)

theorem summary_run (t : Table) {steps : List Step} (h : .summarise ∉ steps) (k : MetricKey)
    (side : Side) : ((t.run steps).getD k).summary side = (t.getD k).summary side := by
  induction steps generalizing t with
  | nil => rfl
  | cons s steps ih =>
    rw [List.mem_cons, not_or] at h
    obtain ⟨hs, hsteps⟩ := h
    rw [run_cons, ih _ hsteps, summary_step t (Ne.symm hs)]

theorem run_summarise (t : Table) (before : List Step) :
    t.run (before ++ [.summarise]) = (t.run before).summarise := by
  rw [run_append, run_cons, run_nil]
  rfl

end Table

/-! ### The last time that a table was summarised -/

/-- A history that falls into what came before the table was last summarised, and what came after. -/
structure LastSummarised (steps before after : List Step) : Prop where
  /-- The table is summarised in between. -/
  split : steps = before ++ .summarise :: after
  /-- It is not summarised again. -/
  last : .summarise ∉ after

/-- At some time in a history from the empty table, there was a bucket of `k` and the table was
summarised. -/
def SummarisedSince (k : MetricKey) (steps : List Step) : Prop :=
  ∃ before after, steps = before ++ .summarise :: after ∧ k ∈ (Table.empty.run before).keys

theorem exists_lastSummarised {steps : List Step} (h : .summarise ∈ steps) :
    ∃ before after, LastSummarised steps before after := by
  induction steps with
  | nil => cases h
  | cons s steps ih =>
    by_cases hs : .summarise ∈ steps
    · obtain ⟨before, after, hsplit, hlast⟩ := ih hs
      exact ⟨s :: before, after, by rw [hsplit, List.cons_append], hlast⟩
    · rcases List.mem_cons.mp h with rfl | h
      · exact ⟨[], steps, rfl, hs⟩
      · exact absurd h hs

/-- What came before any other summary came before the last one. -/
theorem LastSummarised.isPrefix {steps before after : List Step}
    (h : LastSummarised steps before after) {before' after' : List Step}
    (h' : steps = before' ++ .summarise :: after') : before' <+: before := by
  obtain ⟨hsplit, hlast⟩ := h
  rw [hsplit] at h'
  rcases List.append_eq_append_iff.mp h' with ⟨mid, rfl, hmid⟩ | ⟨mid, rfl, hmid⟩
  · cases mid with
    | nil => exact ⟨[], by rw [List.append_nil, List.append_nil]⟩
    | cons s mid =>
      -- then the other summary stands in `after`
      rw [List.cons_append, List.cons.injEq] at hmid
      exact absurd (hmid.2 ▸ List.mem_append_right mid List.mem_cons_self) hlast
  · exact List.prefix_append before' mid

/-- A bucket that was there at some summary was there at the last one. -/
theorem SummarisedSince.mem_keys {k : MetricKey} {steps before after : List Step}
    (h : SummarisedSince k steps) (hlast : LastSummarised steps before after) :
    k ∈ (Table.empty.run before).keys := by
  obtain ⟨before', after', hsplit, hk⟩ := h
  obtain ⟨mid, rfl⟩ := hlast.isPrefix hsplit
  rw [Table.run_append]
  exact (Table.keys_run _ mid).subset hk

/-- The summaries are those of the last time that the table was summarised. -/
theorem LastSummarised.summary_eq {steps before after : List Step}
    (h : LastSummarised steps before after) (k : MetricKey) (side : Side) :
    ((Table.empty.run steps).getD k).summary side =
      (((Table.empty.run before).getD k).summarise).summary side := by
  obtain ⟨rfl, hlast⟩ := h
  rw [Table.run_append, Table.run_cons, Table.summary_run _ hlast]
  exact congrArg (fun b => Bucket.summary b side) (Table.getD_summarise _ k)

/-- The samples of that time are the first of those that are there now. -/
theorem LastSummarised.samples_isPrefix {steps before after : List Step}
    (h : LastSummarised steps before after) (k : MetricKey) (side : Side) :
    ((Table.empty.run before).getD k).samples side <+:
      ((Table.empty.run steps).getD k).samples side := by
  rw [h.split, Table.run_append]
  exact Table.samples_run _ _ k side

/-- A bucket that the table was never summarised with has no summaries. -/
theorem summary_of_not_summarisedSince {k : MetricKey} {steps : List Step}
    (h : ¬ SummarisedSince k steps) (side : Side) :
    ((Table.empty.run steps).getD k).summary side = .empty := by
  by_cases hmem : .summarise ∈ steps
  · obtain ⟨before, after, hlast⟩ := exists_lastSummarised hmem
    have hnew : k ∉ (Table.empty.run before).keys := fun hk => h ⟨before, after, hlast.split, hk⟩
    rw [hlast.summary_eq, Table.getD_of_notMem hnew, Bucket.summarise_empty, Bucket.summary_empty]
  · rw [Table.summary_run _ hmem, Table.getD_empty, Bucket.summary_empty]

/-! ### Main statement -/

/-- **Summaries are those of the samples at the last summary**, for every bucket and side after any
history.  So a second summary in a row changes nothing, and a summary catches up with all samples
that came before it. -/
theorem summaries_follow_history (steps : List Step) :
    (∀ k ∈ (Table.empty.run steps).keys, ∀ side,
      (SummarisedSince k steps → ∃ before after, LastSummarised steps before after ∧
        k ∈ (Table.empty.run before).keys ∧
        ((Table.empty.run before).getD k).samples side <+:
          ((Table.empty.run steps).getD k).samples side ∧
        ((Table.empty.run steps).getD k).summary side =
          .ofSample (((Table.empty.run before).getD k).samples side)) ∧
      (¬ SummarisedSince k steps → (((Table.empty.run steps).getD k).summary side).Undefined)) ∧
    Table.empty.run (steps ++ [.summarise, .summarise]) =
      Table.empty.run (steps ++ [.summarise]) ∧
    (∀ k side, ((Table.empty.run (steps ++ [.summarise])).getD k).summary side =
      .ofSample (((Table.empty.run steps).getD k).samples side)) := by
  refine ⟨?_, ?_, ?_⟩
  · intro k _ side
    constructor
    · intro hsince
      have hmem : .summarise ∈ steps := by
        obtain ⟨before, after, rfl, -⟩ := hsince
        exact List.mem_append_right before List.mem_cons_self
      obtain ⟨before, after, hlast⟩ := exists_lastSummarised hmem
      refine ⟨before, after, hlast, hsince.mem_keys hlast, hlast.samples_isPrefix k side, ?_⟩
      rw [hlast.summary_eq, Bucket.summary_summarise]
    · intro hnever
      rw [summary_of_not_summarisedSince hnever]
      exact Summary.undefined_empty
  · rw [show [Step.summarise, .summarise] = [.summarise] ++ [.summarise] from rfl,
      ← List.append_assoc, Table.run_summarise, Table.run_summarise, Table.summarise_summarise]
  · intro k side
    rw [Table.run_summarise, Table.getD_summarise, Bucket.summary_summarise]

/-- A metric of one test. -/
def exampleKey : MetricKey := ⟨"T", "LIST", "", "", "Perc50"⟩

/-- A sample that comes after the only summary. -/
def staleHistory : List Step :=
  [.sample exampleKey .left 1, .summarise, .sample exampleKey .left 3]

/-- There are two samples, and the summary knows of one. -/
theorem summaries_follow_history_staleHistory :
    ((Table.empty.run staleHistory).getD exampleKey).left = [1, 3] ∧
      ∃ before after, LastSummarised staleHistory before after ∧
        ((Table.empty.run staleHistory).getD exampleKey).summary .left =
          .ofSample (((Table.empty.run before).getD exampleKey).samples .left) := by
  have hkey : exampleKey ∈ (Table.empty.run staleHistory).keys := by decide +kernel
  have hsince : SummarisedSince exampleKey staleHistory :=
    ⟨[.sample exampleKey .left 1], _, rfl, by decide +kernel⟩
  obtain ⟨hfollow, -⟩ := (summaries_follow_history staleHistory).1 _ hkey .left
  obtain ⟨before, after, hlast, -, -, hsummary⟩ := hfollow hsince
  exact ⟨by decide +kernel, before, after, hlast, hsummary⟩

end BenchCompare
