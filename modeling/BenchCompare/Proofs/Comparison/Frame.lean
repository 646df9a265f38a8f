import BenchCompare.Proofs.Comparison.History

/-! # What a step leaves alone

  A table only grows: no step takes away or moves a key or a sample.  And each
  step keeps to its own fields:

  - one that adds samples on a side, to the samples of that side,
  - `Step.summarise`, to the summaries,
  - `Step.verdict`, to the verdict on its own metric.

  Steps that fail are no exception.  They have added samples up to the failure,
  and one that reads a single data item has added none.

  Main statement: `steps_within_frame`.
-/

namespace BenchCompare

/-! ### Growth -/

/-- A table holds all that another one holds, in the same order and in front of what is new. -/
structure Table.GrowsTo (t t' : Table) : Prop where
  /-- No key is lost or moved. -/
  keys : t.keys <+: t'.keys
  /-- No sample is lost or moved. -/
  samples : ∀ k side, (t.getD k).samples side <+: (t'.getD k).samples side

/-! ### Fields of buckets -/

namespace Bucket

/-- Nothing is new but samples on a side. -/
structure OnlySamples (side : Side) (b b' : Bucket) : Prop where
  other : b'.samples side.other = b.samples side.other
  matched : b'.matched = b.matched
  comments : b'.comments = b.comments
  summaries : ∀ s, b'.summary s = b.summary s

/-- Nothing is new but the summaries. -/
structure OnlySummaries (b b' : Bucket) : Prop where
  samples : ∀ side, b'.samples side = b.samples side
  matched : b'.matched = b.matched
  comments : b'.comments = b.comments

/-- Nothing is new but the verdict. -/
structure OnlyVerdict (b b' : Bucket) : Prop where
  samples : ∀ side, b'.samples side = b.samples side
  summaries : ∀ side, b'.summary side = b.summary side

theorem onlySamples_append (side : Side) (xs : List Float) (b : Bucket) :
    OnlySamples side b (b.append side xs) where
  other := samples_append_other side xs b
  matched := matched_append side xs b
  comments := comments_append side xs b
  summaries s := summary_append side s xs b

theorem onlySummaries_summarise (b : Bucket) : OnlySummaries b b.summarise where
  samples side := samples_summarise b side
  matched := rfl
  comments := rfl

theorem onlyVerdict_judge (m : Bool) (c : Text) (b : Bucket) : OnlyVerdict b (b.judge m c) where
  samples side := samples_judge b side m c
  summaries side := summary_judge b side m c

end Bucket

namespace Table

/-! ### One step -/

/-- What a step does to a table stays within its frame. -/
structure Framed (t : Table) (s : Step) : Prop where
  /-- Nothing is lost or moved. -/
  grows : t.GrowsTo (t.step s).table
  /-- Adding samples on a side changes nothing but the samples of that side. -/
  adds : ∀ side, s.side? = some side →
    ∀ k, Bucket.OnlySamples side (t.getD k) ((t.step s).table.getD k)
  /-- Summarising makes no bucket and changes nothing but the summaries. -/
  summarises : s = .summarise → (t.step s).table.keys = t.keys ∧
    ∀ k, Bucket.OnlySummaries (t.getD k) ((t.step s).table.getD k)
  /-- A verdict changes nothing but the verdict on its metric, and other metrics not at all. -/
  judges : ∀ k m c, s = .verdict k m c →
    Bucket.OnlyVerdict (t.getD k) ((t.step s).table.getD k) ∧
    ∀ k', k' ≠ k → (t.step s).table.get? k' = t.get? k'
  /-- An item that cannot be read, or whose count cannot be, changes nothing at all. -/
  fails : ∀ test document min side, s = .report test document min side →
    (t.step s).fault ≠ none → (t.step s).table = t

theorem growsTo_step (t : Table) (s : Step) : t.GrowsTo (t.step s).table where
  keys := keys_step t s
  samples := samples_step t s

theorem growsTo_run (t : Table) (steps : List Step) : t.GrowsTo (t.run steps) where
  keys := keys_run t steps
  samples := samples_run t steps

theorem onlySamples_step {s : Step} {side : Side} (h : s.side? = some side) (t : Table)
    (k : MetricKey) : Bucket.OnlySamples side (t.getD k) ((t.step s).table.getD k) := by
  rcases step_cases t s with ⟨side', hside, hs⟩ | ⟨rfl, -⟩ | ⟨k', m, c, rfl, -⟩
  · have hsame : side' = side := Option.some.inj (hside.symm.trans h)
    rw [hs, getD_addSamples, hsame]
    exact Bucket.onlySamples_append side _ _
  · nomatch h
  · nomatch h

/-- An item is added as a whole or not at all. -/
theorem table_report_of_fault {t : Table} {test : Text} {document : Json} {min : Int}
    {side : Side} (h : (t.step (.report test document min side)).fault ≠ none) :
    (t.step (.report test document min side)).table = t := by
  simp only [step] at h ⊢
  cases hitem : DataItem.decode document with
  | error fault => rfl
  | ok item =>
    rw [hitem] at h
    obtain ⟨htable, hstopped⟩ := ingest_eq min side [(test, item)] t
    have hfault : ((t.ingest min side [(test, item)]).stoppedBy.map StepFault.count) ≠ none := h
    rw [hstopped, refusalOf_cons] at hfault
    -- Only the count of the item can have stopped the step, and then nothing of it is taken in.
    cases hcount : item.refusal? with
    | none =>
      rw [hcount] at hfault
      exact absurd rfl hfault
    | some d =>
      show (t.ingest min side [(test, item)]).table = t
      rw [htable, intake_cons_of_some hcount, addSamples_nil]

theorem framed_step (t : Table) (s : Step) : t.Framed s where
  grows := growsTo_step t s
  adds side h k := onlySamples_step h t k
  summarises h := by
    subst h
    refine ⟨keys_summarise t, ?_⟩
    intro k
    show Bucket.OnlySummaries (t.getD k) (t.summarise.getD k)
    rw [getD_summarise]
    exact Bucket.onlySummaries_summarise _
  judges k m c h := by
    subst h
    constructor
    · show Bucket.OnlyVerdict (t.getD k) ((t.setVerdict k m c).getD k)
      rw [getD_setVerdict, if_pos rfl]
      exact Bucket.onlyVerdict_judge m c _
    · intro k' hne
      exact get?_update_of_ne hne _ t
  fails test document min side h hfault := by
    subst h
    exact table_report_of_fault hfault

/-! ### Main statement -/

/-- **Tables only grow, and each step keeps to its own fields**, whatever the table and whether the step
fails or not.  What a step leaves in place stays in place along any history. -/
theorem steps_within_frame (t : Table) (s : Step) (later : List Step) :
    t.Framed s ∧ t.GrowsTo (t.run later) := ⟨framed_step t s, growsTo_run t later⟩

/-- A report of two values of which the second one is none. -/
def brokenReport : Step :=
  .report "T" (.obj [("data", .obj [("Perc50", .int 1), ("Perc90", .str "fast")])]) 0 .left

/-- The first value is not kept. -/
theorem steps_within_frame_brokenReport :
    let t := empty.run staleHistory
    (t.step brokenReport).fault = some (.record (.badNumeral "fast")) ∧
      (t.step brokenReport).table = t ∧ t.GrowsTo (t.run [brokenReport, .summarise]) := by
  intro t
  have hfault : (t.step brokenReport).fault = some (.record (.badNumeral "fast")) := by
    decide +kernel
  obtain ⟨hframe, hgrows⟩ := steps_within_frame t brokenReport [brokenReport, .summarise]
  have hfails : (t.step brokenReport).fault ≠ none := by
    rw [hfault]
    nofun
  exact ⟨hfault, hframe.fails _ _ _ _ rfl hfails, hgrows⟩

end Table

end BenchCompare
