import BenchCompare.Proofs.Run.Format

/-! # Integers beyond all binary64 numbers

  Documents are read in the order in which they are written, and the first thing
  that is wrong is the fault.  Here this is followed for the one fault that is
  not a matter of shape: a value that is an integer without a binary64 number
  near it.  The place where it stands is described like the format, without the
  decoder: everything before it is as it should be, and what comes behind it
  does not matter.

  Main statement: `Run.decode_eq_hugeInteger`.
-/

namespace BenchCompare

/-! ### The first fault of a list -/

/-- The first element of a list that is not fine is faulty. -/
def FirstFault {α : Type} (fine faulty : α → Prop) (as : List α) : Prop :=
  ∃ before a after, as = before ++ a :: after ∧ (∀ b ∈ before, fine b) ∧ faulty a

theorem not_firstFault_nil {α : Type} {fine faulty : α → Prop} : ¬ FirstFault fine faulty [] := by
  intro h
  obtain ⟨before, a, after, heq, -⟩ := h
  cases before <;> cases heq

theorem firstFault_cons {α : Type} {fine faulty : α → Prop} (a : α) (as : List α) :
    FirstFault fine faulty (a :: as) ↔ faulty a ∨ fine a ∧ FirstFault fine faulty as := by
  constructor
  · intro h
    obtain ⟨before, a', after, heq, hbefore, hfaulty⟩ := h
    cases before with
    | nil =>
      cases heq
      exact .inl hfaulty
    | cons b before =>
      cases heq
      obtain ⟨hfine, hbefore⟩ := List.forall_mem_cons.mp hbefore
      exact .inr ⟨hfine, before, a', after, rfl, hbefore, hfaulty⟩
  · intro h
    rcases h with hfaulty | ⟨hfine, before, a', after, rfl, hbefore, hfaulty⟩
    · exact ⟨[], a, as, rfl, nofun, hfaulty⟩
    · exact ⟨a :: before, a', after, rfl, List.forall_mem_cons.mpr ⟨hfine, hbefore⟩, hfaulty⟩

/-! ### Decoding in sequence -/

theorem bind_eq_error {ε α β : Type} {x : Except ε α} {f : α → Except ε β} {e : ε} :
    (x >>= f) = .error e ↔ x = .error e ∨ ∃ a, x = .ok a ∧ f a = .error e := by
  constructor
  · intro h
    cases x with
    | ok a => exact .inr ⟨a, rfl, h⟩
    | error e' =>
      cases h
      exact .inl rfl
  · intro h
    rcases h with rfl | ⟨a, rfl, h⟩
    · rfl
    · exact h

/-- What is returned after a step does not add a fault to it. -/
theorem bind_pure_eq_error {ε α β : Type} {x : Except ε α} {g : α → β} {e : ε} :
    (x >>= fun a => return g a) = .error e ↔ x = .error e := by
  rw [bind_eq_error]
  constructor
  · intro h
    rcases h with h | ⟨_, _, h⟩
    · exact h
    · cases h
  · exact .inl

/-- The fault of a list is the fault of its first element that is not decoded. -/
theorem mapM_eq_error {ε α β : Type} {f : α → Except ε β} {e : ε} {fine faulty : α → Prop}
    (hfine : ∀ a, (∃ b, f a = .ok b) ↔ fine a) (hfaulty : ∀ a, f a = .error e ↔ faulty a)
    (as : List α) : as.mapM f = .error e ↔ FirstFault fine faulty as := by
  induction as with
  | nil => exact iff_of_false nofun not_firstFault_nil
  | cons a as ih =>
    rw [List.mapM_cons, bind_eq_error, firstFault_cons, hfaulty]
    simp only [bind_pure_eq_error, ih]
    rw [← hfine, exists_and_right]

/-- The fault of an object is the fault of its first field that is not decoded. -/
theorem mapM_fields_eq_error {ε β : Type} {f : Text → Json → Except ε β} {e : ε}
    {fine : Json → Prop} {faulty : Text → Json → Prop}
    (hfine : ∀ name j, (∃ x, f name j = .ok x) ↔ fine j)
    (hfaulty : ∀ name j, f name j = .error e ↔ faulty name j) (es : List (Text × Json)) :
    (es.mapM fun x => return (x.1, ← f x.1 x.2)) = .error e ↔
      FirstFault (fun x => fine x.2) (fun x => faulty x.1 x.2) es := by
  apply mapM_eq_error
  · intro x
    rw [← hfine x.1]
    simp only [bind_eq_ok]
    constructor
    · intro h
      obtain ⟨_, y, hy, -⟩ := h
      exact ⟨y, hy⟩
    · intro h
      obtain ⟨y, hy⟩ := h
      exact ⟨_, y, hy, rfl⟩
  · intro x
    rw [bind_pure_eq_error, hfaulty]

/-! ### Where the integer stands -/

namespace Json

/-- An integer beyond all binary64 numbers. -/
inductive IsHuge : Json → Prop
  | int {n : Int} (huge : Decimal.overflow ≤ n.natAbs) : IsHuge (.int n)

/-- The first value of a data item that is no number is too large an integer. -/
def ItemOverflows (j : Json) : Prop :=
  ∃ es vs, j = .obj es ∧ lookup "data" es = .obj vs ∧
    FirstFault (fun v => v.2.IsNumber) (fun v => v.2.IsHuge) vs

/-- The first data item of a group that cannot be read has too large an integer. -/
def GroupOverflows (j : Json) : Prop :=
  ∃ es js, j = .obj es ∧ lookup "dataItems" es = .arr js ∧ FirstFault IsItem ItemOverflows js

/-- The first group of a test that cannot be read has too large an integer. -/
def TestOverflows (j : Json) : Prop :=
  j.GroupOverflows ∨ ∃ js, j = .arr js ∧ FirstFault IsGroup GroupOverflows js

/-- The first test of a run that cannot be read has too large an integer. -/
def Overflows (test : Text) (j : Json) : Prop :=
  ∃ es, j = .obj es ∧
    FirstFault (fun e => e.2.IsGroup ∨ ∃ js, e.2 = .arr js ∧ ∀ x ∈ js, x.IsGroup)
      (fun e => e.1 = test ∧ e.2.TestOverflows) es

end Json

/-! ### Parts of records -/

theorem nearestFloat_eq_hugeInteger (n : Int) :
    nearestFloat n = .error .hugeInteger ↔ Decimal.overflow ≤ n.natAbs := by
  rw [← Decimal.isInf_ofNat_iff]
  unfold nearestFloat
  dsimp only
  split
  · next hinf => exact iff_of_true rfl hinf
  · next hfin => exact iff_of_false nofun hfin

theorem decodeNumber_eq_hugeInteger (j : Json) :
    decodeNumber j = .error .hugeInteger ↔ j.IsHuge := by
  cases j with
  | int n =>
    rw [show decodeNumber (.int n) = nearestFloat n from rfl, nearestFloat_eq_hugeInteger]
    constructor
    · exact .int
    · intro h
      cases h with
      | int huge => exact huge
  | str s =>
    constructor
    · intro h
      simp only [decodeNumber] at h
      split at h <;> cases h
    · intro h
      cases h
  | _ => constructor <;> intro h <;> cases h

theorem decodeEntries_ne_hugeInteger (j : Json) : decodeEntries j ≠ .error .hugeInteger := by
  intro h
  unfold decodeEntries at h
  split at h
  · cases h
  · cases j <;> cases h

theorem decodeLabels_ne_hugeInteger (j : Json) : decodeLabels j ≠ .error .hugeInteger := by
  unfold decodeLabels
  rw [ne_eq, bind_pure_eq_error]
  exact decodeEntries_ne_hugeInteger j

theorem exists_decodeNumber_iff (j : Json) : (∃ x, decodeNumber j = .ok x) ↔ j.IsNumber := by
  simp only [decodeNumber_eq_ok, Json.exists_number_iff]

theorem decodeValues_eq_hugeInteger (j : Json) :
    decodeValues j = .error .hugeInteger ↔
      ∃ vs, j = .obj vs ∧ FirstFault (fun v => v.2.IsNumber) (fun v => v.2.IsHuge) vs := by
  have hfields := mapM_fields_eq_error (fun _ => exists_decodeNumber_iff)
    (fun _ => decodeNumber_eq_hugeInteger)
  unfold decodeValues
  rw [bind_eq_error, or_iff_right (decodeEntries_ne_hugeInteger j)]
  constructor
  · intro h
    obtain ⟨vs, hvs, h⟩ := h
    rw [hfields] at h
    unfold decodeEntries at hvs
    split at hvs
    · cases hvs
      exact absurd h not_firstFault_nil
    · cases j with
      | obj es =>
        cases hvs
        exact ⟨vs, rfl, h⟩
      | _ => cases hvs
  · intro h
    obtain ⟨vs, rfl, h⟩ := h
    refine ⟨vs, ?_, (hfields vs).mpr h⟩
    cases vs <;> rfl

/-! ### Records -/

theorem exists_decodeItem_iff (j : Json) : (∃ item, DataItem.decode j = .ok item) ↔ j.IsItem := by
  simp only [DataItem.decode_eq_ok, Json.exists_item_iff]

theorem DataItem.decode_eq_hugeInteger (j : Json) :
    DataItem.decode j = .error .hugeInteger ↔ j.ItemOverflows := by
  unfold Json.ItemOverflows
  cases j with
  | obj es =>
    simp only [DataItem.decode]
    rw [bind_eq_error]
    -- The labels come behind the values, and no label is too large.
    simp only [bind_pure_eq_error, decodeLabels_ne_hugeInteger, and_false, exists_false, or_false,
      decodeValues_eq_hugeInteger]
    constructor
    · intro h
      obtain ⟨vs, hvs, h⟩ := h
      exact ⟨es, vs, rfl, hvs, h⟩
    · intro h
      obtain ⟨_, vs, heq, hvs, h⟩ := h
      cases heq
      exact ⟨vs, hvs, h⟩
  | _ =>
    constructor
    · intro h
      cases h
    · rintro ⟨es, vs, heq, -⟩
      cases heq

theorem decodeItems_eq_hugeInteger (j : Json) :
    decodeItems j = .error .hugeInteger ↔
      ∃ js, j = .arr js ∧ FirstFault Json.IsItem Json.ItemOverflows js := by
  have hitems := mapM_eq_error exists_decodeItem_iff DataItem.decode_eq_hugeInteger
  unfold decodeItems
  split
  · next hblank =>
    constructor
    · intro h
      cases h
    · rintro ⟨js, rfl, h⟩
      obtain rfl : js = [] := List.isEmpty_iff.mp hblank
      exact absurd h not_firstFault_nil
  · cases j with
    | arr js =>
      dsimp only
      rw [hitems]
      constructor
      · intro h
        exact ⟨js, rfl, h⟩
      · intro h
        obtain ⟨_, heq, h⟩ := h
        cases heq
        exact h
    | _ =>
      constructor
      · intro h
        cases h
      · rintro ⟨js, heq, -⟩
        cases heq

theorem PerfData.decode_eq_hugeInteger (j : Json) :
    PerfData.decode j = .error .hugeInteger ↔ j.GroupOverflows := by
  unfold Json.GroupOverflows
  cases j with
  | obj es =>
    simp only [PerfData.decode]
    rw [bind_eq_error]
    simp only [bind_pure_eq_error, decodeLabels_ne_hugeInteger, and_false, exists_false, or_false,
      decodeItems_eq_hugeInteger]
    constructor
    · intro h
      obtain ⟨js, hjs, h⟩ := h
      exact ⟨es, js, rfl, hjs, h⟩
    · intro h
      obtain ⟨_, js, heq, hjs, h⟩ := h
      cases heq
      exact ⟨js, hjs, h⟩
  | _ =>
    constructor
    · intro h
      cases h
    · rintro ⟨es, js, heq, -⟩
      cases heq

/-! ### Runs -/

theorem exists_decodeGroup_iff (test : Text) (j : Json) :
    (∃ group, decodeGroup test j = .ok group) ↔ j.IsGroup := by
  simp only [decodeGroup_eq_ok, Json.exists_group_iff]

theorem decodeGroup_eq_hugeInteger (test test' : Text) (j : Json) :
    decodeGroup test j = .error (.badGroup test' .hugeInteger) ↔ test = test' ∧ j.GroupOverflows := by
  rw [← PerfData.decode_eq_hugeInteger]
  cases j with
  | obj es =>
    simp only [decodeGroup]
    cases PerfData.decode (.obj es) with
    | ok group =>
      constructor
      · intro h
        cases h
      · rintro ⟨-, h⟩
        cases h
    | error fault =>
      simp only [Except.mapError, Except.error.injEq, RunFault.badGroup.injEq]
  | _ =>
    constructor
    · intro h
      cases h
    · rintro ⟨-, h⟩
      cases h

theorem exists_decodeGroups_iff (test : Text) (j : Json) :
    (∃ groups, decodeGroups test j = .ok groups) ↔
      j.IsGroup ∨ ∃ js, j = .arr js ∧ ∀ x ∈ js, x.IsGroup := by
  simp only [decodeGroups_eq_ok, Json.exists_groups_iff]

theorem decodeGroups_eq_hugeInteger (test test' : Text) (j : Json) :
    decodeGroups test j = .error (.badGroup test' .hugeInteger) ↔
      test = test' ∧ j.TestOverflows := by
  unfold Json.TestOverflows
  cases j with
  | obj es =>
    simp only [decodeGroups]
    rw [bind_pure_eq_error, decodeGroup_eq_hugeInteger]
    have hno : ¬ ∃ js, Json.obj es = .arr js ∧ FirstFault Json.IsGroup Json.GroupOverflows js := by
      rintro ⟨js, heq, -⟩
      cases heq
    rw [or_iff_left hno]
  | arr js =>
    have hgroups := mapM_eq_error (exists_decodeGroup_iff test)
      (fun j => decodeGroup_eq_hugeInteger test test' j) js
    rw [show decodeGroups test (.arr js) = js.mapM (decodeGroup test) from rfl, hgroups]
    have hno : ¬ (Json.arr js).GroupOverflows := by
      rintro ⟨es, js, heq, -⟩
      cases heq
    rw [or_iff_right hno]
    constructor
    · intro h
      obtain ⟨before, a, after, heq, hbefore, htest, ha⟩ := h
      exact ⟨htest, js, rfl, before, a, after, heq, hbefore, ha⟩
    · intro h
      obtain ⟨htest, _, hjs, before, a, after, heq, hbefore, ha⟩ := h
      cases hjs
      exact ⟨before, a, after, heq, hbefore, htest, ha⟩
  | _ =>
    constructor
    · intro h
      cases h
    · rintro ⟨-, ⟨es, js, heq, -⟩ | ⟨js, heq, -⟩⟩ <;> cases heq

/-- An integer beyond all binary64 numbers is the fault of a run exactly if nothing before it is wrong. -/
theorem Run.decode_eq_hugeInteger (j : Json) (test : Text) :
    Run.decode j = .error (.badGroup test .hugeInteger) ↔ j.Overflows test := by
  unfold Json.Overflows
  cases j with
  | obj es =>
    rw [show Run.decode (.obj es) = es.mapM fun e => return (e.1, ← decodeGroups e.1 e.2) from rfl,
      mapM_fields_eq_error exists_decodeGroups_iff
        (fun name j => decodeGroups_eq_hugeInteger name test j)]
    constructor
    · intro h
      exact ⟨es, rfl, h⟩
    · intro h
      obtain ⟨_, heq, h⟩ := h
      cases heq
      exact h
  | _ =>
    constructor
    · intro h
      cases h
    · rintro ⟨es, heq, -⟩
      cases heq

theorem Run.exists_decode_iff (j : Json) : (∃ run, Run.decode j = .ok run) ↔ j.IsRun := by
  simp only [Run.decode_eq_ok, Json.exists_tests_iff]

end BenchCompare
