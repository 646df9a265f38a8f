import BenchCompare.Proofs.Comparison.Rearrangement
import BenchCompare.Proofs.Job.Contract
import BenchCompare.Proofs.Json.Distinct

/-! # Names in a loaded job

  A job that was loaded has no run that names a test twice, and no item that
  names a percentile twice, whatever the files hold: the names are those of the
  documents.  So what is said of jobs with distinct names is said of all that can
  be loaded.

  Main statement: `Job.isDistinct_of_loadJob`.
-/

namespace BenchCompare

theorem map_fst_eq_of_forall₂ {β : Type} {R : Json → β → Prop} {es : List (Text × Json)}
    {xs : List (Text × β)} (h : List.Forall₂ (fun e x => e.1 = x.1 ∧ R e.2 x.2) es xs) :
    xs.map Prod.fst = es.map Prod.fst := by
  induction h with
  | nil => rfl
  | cons hhead _ ih => rw [List.map_cons, List.map_cons, ih, hhead.1]

namespace Json

theorem IsDistinct.fields {es : List (Text × Json)} (h : (Json.obj es).IsDistinct) :
    AreDistinct es := by
  cases h with
  | obj names each => exact ⟨names, each⟩

theorem isDistinct_lookup {es : List (Text × Json)} (h : (Json.obj es).IsDistinct) (name : Text) :
    (lookup name es).IsDistinct := by
  unfold lookup
  cases hlookup : es.lookup name with
  | none => exact .null
  | some j =>
    obtain ⟨before, after, rfl, -⟩ := List.lookup_eq_some_iff.mp hlookup
    exact h.fields.each (name, j) (List.mem_append_right before List.mem_cons_self)

theorem Item.nodup {j : Json} {item : DataItem} (h : j.Item item) (hj : j.IsDistinct) :
    (item.values.map Prod.fst).Nodup := by
  cases h with
  | fields values =>
    have hdata := isDistinct_lookup hj "data"
    generalize lookup "data" _ = data at values hdata
    obtain ⟨items, unit, labels⟩ := item
    cases values with
    | missing => exact List.nodup_nil
    | fields each =>
      rw [map_fst_eq_of_forall₂ each]
      exact hdata.fields.names

theorem Group.nodup {j : Json} {group : PerfData} (h : j.Group group) (hj : j.IsDistinct)
    {item : DataItem} (hitem : item ∈ group.items) : (item.values.map Prod.fst).Nodup := by
  cases h with
  | fields version items =>
    have hitems := isDistinct_lookup hj "dataItems"
    generalize lookup "dataItems" _ = elements at items hitems
    obtain ⟨version, items, labels⟩ := group
    cases items with
    | missing => cases hitem
    | items each =>
      obtain ⟨element, helement, hsays⟩ := exists_mem_of_forall₂ each hitem
      cases hitems with
      | arr distinct => exact hsays.nodup (distinct element helement)

theorem Groups.nodup {j : Json} {groups : List PerfData} (h : j.Groups groups) (hj : j.IsDistinct)
    {group : PerfData} (hgroup : group ∈ groups) {item : DataItem} (hitem : item ∈ group.items) :
    (item.values.map Prod.fst).Nodup := by
  cases h with
  | single hsays =>
    obtain rfl := List.mem_singleton.mp hgroup
    exact hsays.nodup hj hitem
  | list each =>
    obtain ⟨element, helement, hsays⟩ := exists_mem_of_forall₂ each hgroup
    cases hj with
    | arr distinct => exact hsays.nodup (distinct element helement) hitem

end Json

/-- The names in a run are those of its document. -/
theorem Run.isDistinct_of_decode {j : Json} {run : Run} (hj : j.IsDistinct)
    (h : Run.decode j = .ok run) : run.IsDistinct := by
  obtain ⟨each⟩ := (Run.decode_eq_ok j run).mp h
  refine ⟨?_, ?_⟩
  · show (run.map Prod.fst).Nodup
    rw [map_fst_eq_of_forall₂ each]
    exact hj.fields.names
  · intro entry hentry group hgroup item hitem
    obtain ⟨field, hfield, -, hsays⟩ := exists_mem_of_forall₂ each hentry
    exact hsays.nodup (hj.fields.each field hfield) hgroup hitem

theorem Run.isDistinct_of_readRun {depth : Nat} {fs : FileSystem} {p : Path} {run : Run}
    (h : readRun depth fs p = .ok run) : run.IsDistinct := by
  obtain ⟨text, j, -, hj, hdecode⟩ := FileSystem.readRun_eq_ok_iff.mp h
  exact Run.isDistinct_of_decode (Json.isDistinct_parse hj) hdecode

/-- A job that was loaded has distinct names. -/
theorem Job.isDistinct_of_loadJob {depth : Nat} {fs : FileSystem} {p : Path} {job : Job}
    (h : (loadJob depth fs p).result = .ok job) : job.IsDistinct := by
  rw [FileSystem.loadJob_result] at h
  obtain ⟨files, -, h⟩ := bind_eq_ok.mp h
  have heach := (mapM_eq_ok (fun _ _ => Iff.rfl) files job).mp h
  intro run hrun
  obtain ⟨q, -, hread⟩ := exists_mem_of_forall₂ heach hrun
  exact Run.isDistinct_of_readRun hread

end BenchCompare
