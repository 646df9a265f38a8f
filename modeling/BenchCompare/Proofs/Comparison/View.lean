import BenchCompare.Comparison.Step

/-! # What a table holds for each metric

  A table is read through two views: the set of its keys, and the bucket of each
  key, which is the empty one for a key that is not there.  Every operation is
  described once by what it does to the two views; what follows about whole
  ingestions and histories does not open the operations again.
-/

namespace BenchCompare

/-! ### Samples of one metric -/

/-- The samples that a list holds for a metric, in order.  What is not a number is no sample. -/
def samplesFor (k : MetricKey) (xs : List (MetricKey × Float)) : List Float :=
  xs.filterMap fun (k', x) => if k' = k ∧ x.isNaN = false then some x else none

@[simp] theorem samplesFor_nil (k : MetricKey) : samplesFor k [] = [] := rfl

theorem samplesFor_cons_self {k : MetricKey} {x : Float} (h : x.isNaN = false)
    (xs : List (MetricKey × Float)) : samplesFor k ((k, x) :: xs) = x :: samplesFor k xs :=
  List.filterMap_cons_some (if_pos ⟨rfl, h⟩)

theorem samplesFor_cons_of_ne {k k' : MetricKey} (h : k' ≠ k) (x : Float)
    (xs : List (MetricKey × Float)) : samplesFor k ((k', x) :: xs) = samplesFor k xs :=
  List.filterMap_cons_none (if_neg fun hx => h hx.1)

theorem samplesFor_cons_of_isNaN (k k' : MetricKey) {x : Float} (h : x.isNaN = true)
    (xs : List (MetricKey × Float)) : samplesFor k ((k', x) :: xs) = samplesFor k xs :=
  List.filterMap_cons_none (if_neg fun hx => ne_true_of_eq_false hx.2 h)

/-! ### Summaries -/

/-- A summary that says nothing: all its numbers are undefined. -/
def Summary.Undefined (s : Summary) : Prop :=
  s.mean.isNaN = true ∧ s.deviation.isNaN = true ∧ s.maximum.isNaN = true

theorem Summary.undefined_empty : Summary.empty.Undefined := by
  refine ⟨?_, ?_, ?_⟩ <;> decide

/-! ### Buckets -/

/-- There are no more than two sides. -/
theorem Side.eq_other_of_ne {side other : Side} (h : other ≠ side) : other = side.other := by
  cases side <;> cases other <;> first | rfl | exact absurd rfl h

namespace Bucket

/-- The bucket with more samples on a side. -/
def append (side : Side) (xs : List Float) (b : Bucket) : Bucket :=
  match side with
  | .left => { b with left := b.left ++ xs }
  | .right => { b with right := b.right ++ xs }

@[simp] theorem append_nil (side : Side) (b : Bucket) : b.append side [] = b := by
  cases side <;> simp [append]

@[simp] theorem append_push (side : Side) (x : Float) (xs : List Float) (b : Bucket) :
    (b.push side x).append side xs = b.append side (x :: xs) := by
  cases side <;> simp [append, push]

@[simp] theorem samples_append (side : Side) (xs : List Float) (b : Bucket) :
    (b.append side xs).samples side = b.samples side ++ xs := by
  cases side <;> rfl

@[simp] theorem samples_append_other (side : Side) (xs : List Float) (b : Bucket) :
    (b.append side xs).samples side.other = b.samples side.other := by
  cases side <;> rfl

theorem samples_isPrefix_append (side other : Side) (xs : List Float) (b : Bucket) :
    b.samples other <+: (b.append side xs).samples other := by
  cases side <;> cases other <;> simp [append, samples]

@[simp] theorem summary_append (side other : Side) (xs : List Float) (b : Bucket) :
    (b.append side xs).summary other = b.summary other := by
  cases side <;> cases other <;> rfl

@[simp] theorem matched_append (side : Side) (xs : List Float) (b : Bucket) :
    (b.append side xs).matched = b.matched := by
  cases side <;> rfl

@[simp] theorem comments_append (side : Side) (xs : List Float) (b : Bucket) :
    (b.append side xs).comments = b.comments := by
  cases side <;> rfl

@[simp] theorem samples_empty (side : Side) : empty.samples side = [] := by
  cases side <;> rfl

@[simp] theorem summary_empty (side : Side) : empty.summary side = .empty := by
  cases side <;> rfl

/-- Summarising an empty bucket changes nothing, so that it makes no difference whether a bucket
without samples is there. -/
@[simp] theorem summarise_empty : empty.summarise = empty := rfl

@[simp] theorem summarise_summarise (b : Bucket) : b.summarise.summarise = b.summarise := rfl

end Bucket

namespace Table

/-! ### Keys and buckets -/

theorem get?_isSome_iff (t : Table) (k : MetricKey) : (t.get? k).isSome ↔ k ∈ t.keys := by
  simp [get?, keys, List.lookup_isSome_iff]

theorem getD_of_notMem {t : Table} {k : MetricKey} (h : k ∉ t.keys) : t.getD k = .empty := by
  rw [← get?_isSome_iff] at h
  simp [getD, Option.not_isSome_iff_eq_none.mp h]

@[simp] theorem getD_empty (k : MetricKey) : empty.getD k = .empty := rfl

theorem mem_keys_update (k k' : MetricKey) (f : Bucket → Bucket) (t : Table) :
    k' ∈ (t.update k f).keys ↔ k' ∈ t.keys ∨ k' = k := by
  rw [keys_update]
  split
  · constructor
    · exact Or.inl
    · intro h
      rcases h with h | rfl
      · exact h
      · assumption
  · simp

theorem getD_update_self (k : MetricKey) (f : Bucket → Bucket) (t : Table) :
    (t.update k f).getD k = f (t.getD k) := by
  simp [getD]

theorem getD_update_of_ne {k k' : MetricKey} (h : k' ≠ k) (f : Bucket → Bucket) (t : Table) :
    (t.update k f).getD k' = t.getD k' := by
  simp [getD, get?_update_of_ne h]

/-! ### Adding samples -/

@[simp] theorem addSamples_nil (side : Side) (t : Table) : t.addSamples side [] = t := rfl

@[simp] theorem addSamples_cons (side : Side) (k : MetricKey) (x : Float)
    (xs : List (MetricKey × Float)) (t : Table) :
    t.addSamples side ((k, x) :: xs) = (t.addSample k side x).addSamples side xs := rfl

theorem addSamples_append (side : Side) (xs ys : List (MetricKey × Float)) (t : Table) :
    t.addSamples side (xs ++ ys) = (t.addSamples side xs).addSamples side ys := by
  simp [addSamples, List.foldl_append]

theorem addSample_of_isNaN (k : MetricKey) (side : Side) {x : Float} (h : x.isNaN = true)
    (t : Table) : t.addSample k side x = t := if_pos h

theorem addSample_of_not_isNaN (k : MetricKey) (side : Side) {x : Float} (h : x.isNaN = false)
    (t : Table) : t.addSample k side x = t.update k (.push side x) :=
  if_neg (ne_true_of_eq_false h)

/-- Each bucket gets its own samples, on the given side and in the given order. -/
theorem getD_addSamples (side : Side) (xs : List (MetricKey × Float)) (t : Table) (k : MetricKey) :
    (t.addSamples side xs).getD k = (t.getD k).append side (samplesFor k xs) := by
  induction xs generalizing t with
  | nil => simp
  | cons e xs ih =>
    obtain ⟨k', x⟩ := e
    rw [addSamples_cons, ih]
    by_cases hx : x.isNaN = true
    · rw [addSample_of_isNaN k' side hx, samplesFor_cons_of_isNaN k k' hx]
    · have hx' : x.isNaN = false := eq_false_of_ne_true hx
      rw [addSample_of_not_isNaN k' side hx']
      by_cases hk : k' = k
      · subst hk
        rw [getD_update_self, samplesFor_cons_self hx', Bucket.append_push]
      · rw [getD_update_of_ne (Ne.symm hk), samplesFor_cons_of_ne hk]

/-- A key is new exactly if it got a sample. -/
theorem mem_keys_addSamples (side : Side) (xs : List (MetricKey × Float)) (t : Table)
    (k : MetricKey) :
    k ∈ (t.addSamples side xs).keys ↔ k ∈ t.keys ∨ samplesFor k xs ≠ [] := by
  induction xs generalizing t with
  | nil => simp
  | cons e xs ih =>
    obtain ⟨k', x⟩ := e
    rw [addSamples_cons, ih]
    by_cases hx : x.isNaN = true
    · rw [addSample_of_isNaN k' side hx, samplesFor_cons_of_isNaN k k' hx]
    · have hx' : x.isNaN = false := eq_false_of_ne_true hx
      rw [addSample_of_not_isNaN k' side hx', mem_keys_update]
      by_cases hk : k' = k
      · subst hk
        simp [samplesFor_cons_self hx']
      · have hk' : k ≠ k' := Ne.symm hk
        simp [samplesFor_cons_of_ne hk, hk']

/-- New keys come behind those that are there. -/
theorem keys_isPrefix_update (k : MetricKey) (f : Bucket → Bucket) (t : Table) :
    t.keys <+: (t.update k f).keys := by
  rw [keys_update]
  split
  · exact List.prefix_rfl
  · exact List.prefix_append t.keys [k]

theorem keys_isPrefix_addSamples (side : Side) (xs : List (MetricKey × Float)) (t : Table) :
    t.keys <+: (t.addSamples side xs).keys := by
  induction xs generalizing t with
  | nil => exact List.prefix_rfl
  | cons e xs ih =>
    obtain ⟨k, x⟩ := e
    have hfirst : t.keys <+: (t.addSample k side x).keys := by
      unfold addSample
      split
      · exact List.prefix_rfl
      · exact keys_isPrefix_update k _ t
    rw [addSamples_cons]
    exact hfirst.trans (ih _)

/-- No key gets a second bucket. -/
theorem nodup_keys_update (k : MetricKey) (f : Bucket → Bucket) {t : Table} (h : t.keys.Nodup) :
    (t.update k f).keys.Nodup := by
  rw [keys_update]
  split
  · exact h
  · next hnew => simpa [List.nodup_append] using ⟨h, fun k' hk' heq => hnew (heq ▸ hk')⟩

theorem nodup_keys_addSamples (side : Side) (xs : List (MetricKey × Float)) {t : Table}
    (h : t.keys.Nodup) : (t.addSamples side xs).keys.Nodup := by
  induction xs generalizing t with
  | nil => exact h
  | cons e xs ih =>
    obtain ⟨k, x⟩ := e
    rw [addSamples_cons]
    apply ih
    unfold addSample
    split
    · exact h
    · exact nodup_keys_update k _ h

/-! ### Summarising and judging -/

theorem get?_summarise (t : Table) (k : MetricKey) :
    t.summarise.get? k = (t.get? k).map Bucket.summarise := by
  obtain ⟨es⟩ := t
  simp only [get?, summarise]
  induction es with
  | nil => rfl
  | cons e es ih =>
    obtain ⟨k', b⟩ := e
    simp only [List.map_cons, List.lookup_cons]
    split
    · rfl
    · exact ih

@[simp] theorem getD_summarise (t : Table) (k : MetricKey) :
    t.summarise.getD k = (t.getD k).summarise := by
  simp only [getD, get?_summarise]
  cases t.get? k <;> rfl

@[simp] theorem summarise_summarise (t : Table) : t.summarise.summarise = t.summarise := by
  simp [summarise, Function.comp_def]

theorem mem_keys_setVerdict (k k' : MetricKey) (m : Bool) (c : Text) (t : Table) :
    k' ∈ (t.setVerdict k m c).keys ↔ k' ∈ t.keys ∨ k' = k :=
  mem_keys_update k k' (.judge m c) t

theorem getD_setVerdict (k k' : MetricKey) (m : Bool) (c : Text) (t : Table) :
    (t.setVerdict k m c).getD k' = if k' = k then (t.getD k).judge m c else t.getD k' := by
  split
  · next h => subst h; exact getD_update_self k' (.judge m c) t
  · next h => exact getD_update_of_ne h (.judge m c) t

end Table

end BenchCompare
