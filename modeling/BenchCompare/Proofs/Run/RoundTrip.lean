import BenchCompare.Proofs.Run.Format
import BenchCompare.Run.Encode

/-! # Records that were written are read back

  The writer and the decoder do not mirror each other: labels of a group are
  written only if there are any, and the decoder puts defaults in the place of
  blank values and takes numbers, versions and labels over into types of their
  own.  The unit is the one part that the decoder passes on as it is, blank
  units apart.  So a record that is written and read again loses nothing but a
  blank unit, which becomes the empty text (`Run.decode_encode`), and a record
  that was read has no such unit any more (`Run.settle_of_decode`).

  Main statement: `written_read_back`.
-/

namespace BenchCompare

/-! ### Settled records -/

/-- A unit as the decoder leaves it: instead of a blank one, the empty text. -/
def Json.settle (unit : Json) : Json := if unit.isBlank then .str "" else unit

/-- A data item with its unit settled. -/
def DataItem.settle (item : DataItem) : DataItem := { item with unit := item.unit.settle }

/-- A group with the units of its items settled. -/
def PerfData.settle (group : PerfData) : PerfData :=
  { group with items := group.items.map DataItem.settle }

/-- A run with the units of all items settled. -/
def Run.settle (run : Run) : Run := run.map fun (test, groups) => (test, groups.map PerfData.settle)

namespace Json

theorem given_settle (unit : Json) : unit.Given (.str "") id unit.settle :=
  (given_iff _ _ unit _).mpr rfl

/-- Nothing blank is left but the empty text, which stays what it is. -/
theorem settle_settle (unit : Json) : unit.settle.settle = unit.settle := by
  unfold settle
  by_cases hblank : unit.isBlank
  · rw [if_pos hblank]
    rfl
  · rw [if_neg hblank, if_neg hblank]

/-- A text is settled, also the empty one. -/
theorem settle_str (s : Text) : (str s).settle = str s := by
  unfold settle
  split
  · next hblank =>
    have hempty : s = "" := Text.isEmpty_iff.mp hblank
    rw [hempty]
  · rfl

/-! ### Reading what was written -/

/-- Named parts are read back if each part is. -/
theorem entries_written {β γ : Type} {R : Json → β → Prop} {write : γ → Json} {f : γ → β}
    (h : ∀ x, R (write x) (f x)) (xs : List (Text × γ)) :
    Entries R (.obj (xs.map fun e => (e.1, write e.2))) (xs.map fun e => (e.1, f e.2)) := by
  apply Entries.fields
  rw [List.forall₂_map_left_iff, List.forall₂_map_right_iff, List.forall₂_same]
  intro e _
  exact ⟨rfl, h e.2⟩

/-- The parts of a list are read back if each one is. -/
theorem elements_written {β γ : Type} {R : Json → β → Prop} {write : γ → Json} {f : γ → β}
    (h : ∀ x, R (write x) (f x)) (xs : List γ) :
    List.Forall₂ R (xs.map write) (xs.map f) := by
  rw [List.forall₂_map_left_iff, List.forall₂_map_right_iff, List.forall₂_same]
  intro x _
  exact h x

theorem values_written (values : List (Text × Float)) :
    Entries Number (.obj (values.map fun e => (e.1, .float e.2))) values := by
  have h := entries_written (f := id) Number.float values
  rwa [show (fun e : Text × Float => (e.1, id e.2)) = id from rfl, List.map_id] at h

theorem labels_written (labels : List (Text × Text)) :
    Entries Label (encodeLabels labels) labels := by
  have hlabel : ∀ s, Label (.str s) (id s) := by
    intro s
    rw [label_iff]
    exact text_str s
  have h := entries_written hlabel labels
  rwa [show (fun e : Text × Text => (e.1, id e.2)) = id from rfl, List.map_id] at h

theorem item_written (item : DataItem) : item.encode.Item item.settle :=
  .fields (values_written item.values) (given_settle item.unit) (labels_written item.labels)

theorem version_written (version : Text) : (str version).Given ("" : Text) text version := by
  rw [given_iff, text_str]
  split
  · next hblank => exact (Text.isEmpty_iff.mp hblank).symm
  · rfl

theorem group_written (group : PerfData) : group.encode.Group group.settle := by
  have hversion := version_written group.version
  have hitems : Elements Item (.arr (group.items.map DataItem.encode))
      (group.items.map DataItem.settle) := .items (elements_written item_written group.items)
  unfold PerfData.encode
  by_cases hlabels : group.labels = []
  · -- A field that is not written is read as a missing one.
    rw [hlabels]
    refine .fields hversion hitems ?_
    show Entries Label null group.labels
    rw [hlabels]
    exact .missing .null
  · rw [if_neg (mt List.isEmpty_iff.mp hlabels)]
    exact .fields hversion hitems (labels_written group.labels)

theorem tests_written (run : Run) : run.encode.Tests run.settle := by
  have hgroups : ∀ groups : List PerfData,
      Groups (.arr (groups.map PerfData.encode)) (groups.map PerfData.settle) :=
    fun groups => .list (elements_written group_written groups)
  apply Tests.fields
  rw [Run.settle, List.forall₂_map_left_iff, List.forall₂_map_right_iff, List.forall₂_same]
  intro e _
  exact ⟨rfl, hgroups e.2⟩

end Json

theorem DataItem.decode_encode (item : DataItem) : DataItem.decode item.encode = .ok item.settle :=
  (DataItem.decode_eq_ok _ _).mpr (Json.item_written item)

theorem PerfData.decode_encode (group : PerfData) :
    PerfData.decode group.encode = .ok group.settle :=
  (PerfData.decode_eq_ok _ _).mpr (Json.group_written group)

/-- Every run can be written and read again; only blank units come back changed. -/
theorem Run.decode_encode (run : Run) : Run.decode run.encode = .ok run.settle :=
  (Run.decode_eq_ok _ _).mpr (Json.tests_written run)

/-! ### What was read is settled -/

/-- A list is left as it is by what leaves each element as it is. -/
theorem map_eq_self_of_mem {α : Type} {f : α → α} {xs : List α} (h : ∀ x ∈ xs, f x = x) :
    xs.map f = xs := by
  rw [List.map_congr_left h, List.map_id']

namespace Json

theorem Item.settled {j : Json} {item : DataItem} (h : j.Item item) : item.settle = item := by
  obtain ⟨-, hunit, -⟩ := h
  have hsettled : item.unit.settle = item.unit := by
    rw [given_iff] at hunit
    rw [← hunit]
    exact settle_settle _
  unfold DataItem.settle
  rw [hsettled]

theorem Elements.settled {j : Json} {items : List DataItem} (h : j.Elements Item items) :
    items.map DataItem.settle = items := by
  cases h with
  | missing => rfl
  | items each =>
    apply map_eq_self_of_mem
    intro item hmem
    obtain ⟨_, -, hitem⟩ := exists_mem_of_forall₂ each hmem
    exact hitem.settled

theorem Group.settled {j : Json} {group : PerfData} (h : j.Group group) :
    group.settle = group := by
  obtain ⟨-, hitems, -⟩ := h
  unfold PerfData.settle
  rw [hitems.settled]

theorem Groups.settled {j : Json} {groups : List PerfData} (h : j.Groups groups) :
    groups.map PerfData.settle = groups := by
  cases h with
  | single hgroup => rw [List.map_singleton, hgroup.settled]
  | list each =>
    apply map_eq_self_of_mem
    intro group hmem
    obtain ⟨_, -, hgroup⟩ := exists_mem_of_forall₂ each hmem
    exact hgroup.settled

theorem Tests.settled {j : Json} {run : Run} (h : j.Tests run) : run.settle = run := by
  obtain ⟨each⟩ := h
  apply map_eq_self_of_mem
  intro x hmem
  obtain ⟨_, -, -, hgroups⟩ := exists_mem_of_forall₂ each hmem
  dsimp only
  rw [hgroups.settled]

end Json

theorem DataItem.settle_of_decode {j : Json} {item : DataItem} (h : DataItem.decode j = .ok item) :
    item.settle = item :=
  ((DataItem.decode_eq_ok j item).mp h).settled

theorem PerfData.settle_of_decode {j : Json} {group : PerfData}
    (h : PerfData.decode j = .ok group) : group.settle = group :=
  ((PerfData.decode_eq_ok j group).mp h).settled

/-- One reading reaches the form that the next one leaves as it is. -/
theorem Run.settle_of_decode {j : Json} {run : Run} (h : Run.decode j = .ok run) :
    run.settle = run :=
  ((Run.decode_eq_ok j run).mp h).settled

/-! ### Units that are texts -/

/-- The unit of an item is a text. -/
def DataItem.HasTextUnit (item : DataItem) : Prop := ∃ s, item.unit = .str s

theorem DataItem.HasTextUnit.settle {item : DataItem} (h : item.HasTextUnit) :
    item.settle = item := by
  obtain ⟨s, hs⟩ := h
  unfold DataItem.settle
  rw [hs, Json.settle_str, ← hs]

theorem PerfData.settle_of_hasTextUnit {group : PerfData}
    (h : ∀ item ∈ group.items, item.HasTextUnit) : group.settle = group := by
  unfold PerfData.settle
  rw [map_eq_self_of_mem fun item hitem => (h item hitem).settle]

theorem Run.settle_of_hasTextUnit {run : Run} (h : ∀ x ∈ run.items, x.2.HasTextUnit) :
    run.settle = run := by
  apply map_eq_self_of_mem
  intro e he
  have hgroups : ∀ group ∈ e.2, group.settle = group := by
    intro group hgroup
    apply PerfData.settle_of_hasTextUnit
    intro item hitem
    have hmem : (e.1, item) ∈ run.items :=
      List.mem_flatMap.mpr ⟨e, he, List.mem_flatMap.mpr ⟨group, hgroup,
        List.mem_map.mpr ⟨item, hitem, rfl⟩⟩⟩
    exact h _ hmem
  dsimp only
  rw [map_eq_self_of_mem hgroups]

/-! ### Main statement -/

/-- **Reading undoes writing**, for all that was read before, and for records made of texts.  The
records come back with every part in its place and every number with its sign and all its bits. -/
theorem written_read_back :
    (∀ j run, Run.decode j = .ok run → Run.decode run.encode = .ok run) ∧
    (∀ j group, PerfData.decode j = .ok group → PerfData.decode group.encode = .ok group) ∧
    (∀ j item, DataItem.decode j = .ok item → DataItem.decode item.encode = .ok item) ∧
    (∀ run : Run, (∀ x ∈ run.items, x.2.HasTextUnit) → Run.decode run.encode = .ok run) ∧
    (∀ group : PerfData, (∀ item ∈ group.items, item.HasTextUnit) →
      PerfData.decode group.encode = .ok group) ∧
    (∀ item : DataItem, item.HasTextUnit → DataItem.decode item.encode = .ok item) := by
  refine ⟨?_, ?_, ?_, ?_, ?_, ?_⟩
  · intro j run h
    rw [Run.decode_encode, Run.settle_of_decode h]
  · intro j group h
    rw [PerfData.decode_encode, PerfData.settle_of_decode h]
  · intro j item h
    rw [DataItem.decode_encode, DataItem.settle_of_decode h]
  · intro run h
    rw [Run.decode_encode, Run.settle_of_hasTextUnit h]
  · intro group h
    rw [PerfData.decode_encode, PerfData.settle_of_hasTextUnit h]
  · intro item h
    rw [DataItem.decode_encode, h.settle]

/-- Blank fields, and fields of other types: a unit is zero, a version is a number, a label is `null`,
and one of the values is no number. -/
def blankFieldsRun : Json :=
  .obj [("T", .obj [("version", .int 2), ("labels", .obj []),
    ("dataItems", .arr [.obj [("data", .obj [("P", .null), ("Q", .bool true)]), ("unit", .int 0),
      ("labels", .obj [("Verb", .null), ("Count", .int 3)])]])])]

/-- What `blankFieldsRun` says. -/
def blankFieldsItem : DataItem :=
  ⟨[("P", nan), ("Q", 1)], .str "", [("Verb", ""), ("Count", "3")]⟩

theorem written_read_back_blankFields :
    Run.decode blankFieldsRun = .ok [("T", [⟨"2", [blankFieldsItem], []⟩])] ∧
    Run.decode (Run.encode [("T", [⟨"2", [blankFieldsItem], []⟩])]) =
      .ok [("T", [⟨"2", [blankFieldsItem], []⟩])] ∧
    PerfData.decode (PerfData.encode ⟨"", [blankFieldsItem], []⟩) =
      .ok ⟨"", [blankFieldsItem], []⟩ ∧
    DataItem.decode blankFieldsItem.encode = .ok blankFieldsItem := by
  have hread : Run.decode blankFieldsRun = .ok [("T", [⟨"2", [blankFieldsItem], []⟩])] := by
    rfl
  have htext : blankFieldsItem.HasTextUnit := ⟨"", rfl⟩
  obtain ⟨hrun, -, -, -, hgroup, hitem⟩ := written_read_back
  refine ⟨hread, hrun _ _ hread, ?_, hitem _ htext⟩
  exact hgroup _ (List.forall_mem_singleton.mpr htext)

end BenchCompare
