import BenchCompare.Value.Text

/-! # Values that can be shown

  A value is shown part by part.  Showing it ends at the first part that cannot be
  shown: an integer with too many digits, or a list or mapping that lies too deep.

  * `Value.Shows room v`: `v` can be shown with this room for its parts.
  * `Value.Hides room v reason`: it cannot be, and this is the first reason.

  Main statements: `unshown?_eq_none_iff` and `unshown?_eq_some_iff`, and
  `shows_nested_iff` for lists that lie inside one another.
-/

namespace BenchCompare.Value

/-- The parts of a list or of a mapping, in the order in which they are shown. -/
def parts : Value → List Value
  | scalar _ => []
  | list items => items
  | mapping entries => entries.flatMap fun (k, v) => [scalar k, v]

/-- A value is a list or a mapping. -/
def IsContainer (v : Value) : Prop := ∀ s, v ≠ scalar s

/-- A value can be shown with this room: each part has one place less. -/
inductive Shows : Nat → Value → Prop
  | scalar {room : Nat} {s : Scalar} (shown : s.unshown? = none) : Shows room (.scalar s)
  | empty {room : Nat} {v : Value} (container : v.IsContainer) (parts : v.parts = []) : Shows room v
  | filled {room : Nat} {v : Value} (container : v.IsContainer) (parts : ∀ w ∈ v.parts, Shows room w) :
      Shows (room + 1) v

/-- A value cannot be shown with this room, for a reason that no part in front gives. -/
inductive Hides : Nat → Value → Unshown → Prop
  | scalar {room : Nat} {s : Scalar} {reason : Unshown} (hidden : s.unshown? = some reason) :
      Hides room (.scalar s) reason
  | full {v w : Value} (part : w ∈ v.parts) : Hides 0 v .tooDeep
  | part {room : Nat} {v w : Value} {before after : List Value} {reason : Unshown}
      (parts : v.parts = before ++ w :: after) (shown : ∀ u ∈ before, Shows room u)
      (hidden : Hides room w reason) : Hides (room + 1) v reason

/-! ### Parts -/

theorem entriesUnshown?_eq (room : Nat) (entries : List (Scalar × Value)) :
    entriesUnshown? room entries = itemsUnshown? room (mapping entries).parts := by
  unfold parts
  cases room with
  | zero => cases entries <;> simp [entriesUnshown?, itemsUnshown?]
  | succ room =>
    induction entries with
    | nil => rfl
    | cons e entries ih =>
      rw [entriesUnshown?, ih]
      rfl

/-- What keeps a list or a mapping from being shown is what keeps its parts. -/
theorem unshown?_of_isContainer {v : Value} (h : v.IsContainer) (room : Nat) :
    v.unshown? room = itemsUnshown? room v.parts := by
  cases v with
  | scalar s => exact absurd rfl (h s)
  | list items => rfl
  | mapping entries => exact entriesUnshown?_eq room entries

theorem itemsUnshown?_eq_none_iff {room : Nat} {items : List Value} :
    itemsUnshown? (room + 1) items = none ↔ ∀ w ∈ items, w.unshown? room = none := by
  induction items with
  | nil => simp [itemsUnshown?]
  | cons w items ih => rw [itemsUnshown?, Option.or_eq_none_iff, ih, List.forall_mem_cons]

theorem itemsUnshown?_eq_some_iff {room : Nat} {items : List Value} {reason : Unshown} :
    itemsUnshown? (room + 1) items = some reason ↔ ∃ before w after, items = before ++ w :: after ∧
      (∀ u ∈ before, u.unshown? room = none) ∧ w.unshown? room = some reason := by
  induction items with
  | nil => simp [itemsUnshown?]
  | cons w items ih =>
    rw [itemsUnshown?, Option.or_eq_some_iff, ih]
    constructor
    · rintro (hw | ⟨hw, before, w', after, rfl, hbefore, hw'⟩)
      · exact ⟨[], w, items, rfl, nofun, hw⟩
      · exact ⟨w :: before, w', after, rfl, List.forall_mem_cons.mpr ⟨hw, hbefore⟩, hw'⟩
    · rintro ⟨before, w', after, heq, hbefore, hw'⟩
      cases before with
      | nil =>
        cases heq
        exact .inl hw'
      | cons u before =>
        cases heq
        obtain ⟨hu, hbefore⟩ := List.forall_mem_cons.mp hbefore
        exact .inr ⟨hu, before, w', after, rfl, hbefore, hw'⟩

/-! ### Values -/

variable {room : Nat} {v : Value} {s : Scalar} {reason : Unshown}

theorem shows_scalar_iff : (scalar s).Shows room ↔ s.unshown? = none := by
  constructor
  · intro h
    cases h with
    | scalar shown => exact shown
    | empty container => exact absurd rfl (container s)
    | filled container => exact absurd rfl (container s)
  · exact .scalar

theorem hides_scalar_iff : (scalar s).Hides room reason ↔ s.unshown? = some reason := by
  constructor
  · intro h
    cases h with
    | scalar hidden => exact hidden
    | full part => cases part
    | part parts => simp [Value.parts] at parts
  · exact .scalar

theorem exists_scalar_or_isContainer (v : Value) : (∃ s, v = scalar s) ∨ v.IsContainer := by
  cases v with
  | scalar s => exact .inl ⟨s, rfl⟩
  | _ => exact .inr nofun

theorem itemsUnshown?_zero (items : List Value) :
    itemsUnshown? 0 items = if items = [] then none else some .tooDeep := by
  cases items <;> simp [itemsUnshown?]

/-- A value can be shown exactly if there is no reason against it. -/
theorem unshown?_eq_none_iff : v.unshown? room = none ↔ v.Shows room := by
  induction room generalizing v with
  | zero =>
    rcases exists_scalar_or_isContainer v with ⟨s, rfl⟩ | hv
    · exact shows_scalar_iff.symm
    · rw [unshown?_of_isContainer hv, itemsUnshown?_zero]
      constructor
      · intro h
        exact .empty hv (by simpa using h)
      · intro h
        cases h with
        | scalar => exact absurd rfl (hv _)
        | empty _ parts => exact if_pos parts
  | succ room ih =>
    rcases exists_scalar_or_isContainer v with ⟨s, rfl⟩ | hv
    · exact shows_scalar_iff.symm
    · rw [unshown?_of_isContainer hv, itemsUnshown?_eq_none_iff]
      simp only [ih]
      constructor
      · exact .filled hv
      · intro h
        cases h with
        | scalar => exact absurd rfl (hv _)
        | empty _ parts => simp [parts]
        | filled _ parts => exact parts

/-- Otherwise the reason is the first one. -/
theorem unshown?_eq_some_iff : v.unshown? room = some reason ↔ v.Hides room reason := by
  induction room generalizing v with
  | zero =>
    rcases exists_scalar_or_isContainer v with ⟨s, rfl⟩ | hv
    · exact hides_scalar_iff.symm
    · rw [unshown?_of_isContainer hv, itemsUnshown?_zero]
      constructor
      · intro h
        split at h
        · cases h
        · next hparts =>
          cases h
          obtain ⟨w, hw⟩ := List.exists_mem_of_ne_nil _ hparts
          exact .full hw
      · intro h
        cases h with
        | scalar => exact absurd rfl (hv _)
        | full part => exact if_neg (List.ne_nil_of_mem part)
  | succ room ih =>
    rcases exists_scalar_or_isContainer v with ⟨s, rfl⟩ | hv
    · exact hides_scalar_iff.symm
    · rw [unshown?_of_isContainer hv, itemsUnshown?_eq_some_iff]
      simp only [ih, unshown?_eq_none_iff]
      constructor
      · rintro ⟨before, w, after, hparts, hshown, hhidden⟩
        exact .part hparts hshown hhidden
      · intro h
        cases h with
        | scalar => exact absurd rfl (hv _)
        | part parts shown hidden => exact ⟨_, _, _, parts, shown, hidden⟩

/-- There is one reason at most. -/
theorem Hides.unique {reason' : Unshown} (h : v.Hides room reason) (h' : v.Hides room reason') :
    reason = reason' := by
  rw [← unshown?_eq_some_iff] at h h'
  exact Option.some.inj (h.symm.trans h')

theorem Shows.not_hides (h : v.Shows room) : ¬ v.Hides room reason := by
  rw [← unshown?_eq_some_iff, unshown?_eq_none_iff.mpr h]
  exact nofun

/-- A value can be shown, or there is a reason why it cannot. -/
theorem shows_or_hides (room : Nat) (v : Value) : v.Shows room ∨ ∃ reason, v.Hides room reason := by
  cases h : v.unshown? room with
  | none => exact .inl (unshown?_eq_none_iff.mp h)
  | some reason => exact .inr ⟨reason, unshown?_eq_some_iff.mp h⟩

/-! ### Lists inside one another -/

/-- Lists inside one another, as many as this. -/
def nested : Nat → Value
  | 0 => null
  | n + 1 => list [nested n]

theorem unshown?_nested (room n : Nat) :
    (nested n).unshown? room = if room < n then some .tooDeep else none := by
  induction n generalizing room with
  | zero => rfl
  | succ n ih =>
    cases room with
    | zero => rfl
    | succ room => simp [nested, unshown?, itemsUnshown?, ih]

/-- Lists can be shown if there is room for all of them, and otherwise they lie too deep. -/
theorem shows_nested_iff {n : Nat} : (nested n).Shows room ↔ n ≤ room := by
  rw [← unshown?_eq_none_iff, unshown?_nested, ← Nat.not_lt]
  simp

theorem hides_nested {n : Nat} (h : room < n) : (nested n).Hides room .tooDeep := by
  rw [← unshown?_eq_some_iff, unshown?_nested, if_pos h]

end BenchCompare.Value
