import BenchCompare.Comparison.Ingest
import Mathlib.Algebra.Group.Int.Defs
import Mathlib.Data.Nat.Digits.Defs

/-! # What request counts mean

  A `Count` label is an integer numeral if it is an optional sign and ASCII
  digits, and nothing else.  The grammar here says so without reading the label
  from the left, and gives the numeral its value by place:

  * `Denotes label n`: the label is a numeral of the integer `n`.
  * `Overlong label d`: the label is a numeral of `d` digits, which are too many
    to be read.
  * `IsKept min item`: the count of an item does not speak against it.

  Main statements: the fate of an item is decided by these three alone.
-/

namespace BenchCompare

/-! ### Numerals -/

/-- A text of a sign, which may be missing, and what follows it.  `true` stands for a minus sign. -/
inductive Signed : List Char → Bool → List Char → Prop where
  /-- No sign. -/
  | bare (ds : List Char) : Signed ds false ds
  /-- A plus sign. -/
  | plus (ds : List Char) : Signed ('+' :: ds) false ds
  /-- A minus sign. -/
  | minus (ds : List Char) : Signed ('-' :: ds) true ds

/-- A text of ASCII digits, at least one. -/
def AreDigits (ds : List Char) : Prop := ds ≠ [] ∧ ∀ c ∈ ds, c.isDigit = true

/-- The number that digits denote, by place: the last one counts ones. -/
def placeValue (ds : List Char) : Nat := Nat.ofDigits 10 (ds.reverse.map fun c => c.toNat - '0'.toNat)

/-- A number under a sign. -/
def signedValue (negative : Bool) (n : Nat) : Int := if negative then -(n : Int) else n

/-- The label is a numeral of an integer. -/
def Denotes (label : Text) (n : Int) : Prop :=
  ∃ numeral : String, label = numeral ∧
    ∃ negative ds, Signed numeral.toList negative ds ∧ AreDigits ds ∧
      n = signedValue negative (placeValue ds)

/-- The label is a numeral with a number of digits that is too great. -/
def Overlong (label : Text) (digits : Nat) : Prop :=
  ∃ numeral : String, label = numeral ∧
    ∃ negative ds, Signed numeral.toList negative ds ∧ AreDigits ds ∧
      ds.length = digits ∧ Decimal.maxDigits < digits

/-! ### Reading from the left -/

theorem natOfDigits_eq_placeValue (ds : List Char) : Decimal.natOfDigits ds = placeValue ds := by
  unfold Decimal.natOfDigits placeValue
  rw [Nat.ofDigits_eq_foldr, List.foldr_map, List.foldr_reverse]
  congr 1
  funext n c
  simp [Nat.mul_comm, Nat.add_comm]

/-- The sign that is taken off is the only one with which digits can follow. -/
theorem signed_iff_takeSign {cs ds : List Char} {negative : Bool} (h : AreDigits ds) :
    Signed cs negative ds ↔ Decimal.takeSign cs = (negative, ds) := by
  constructor
  · intro hs
    cases hs with
    | plus => rfl
    | minus => rfl
    | bare =>
      -- The first digit is no sign.
      obtain ⟨hne, hall⟩ := h
      cases cs with
      | nil => exact absurd rfl hne
      | cons c rest =>
        have hc : c.isDigit = true := hall c List.mem_cons_self
        have hminus : c ≠ '-' := by rintro rfl; simp at hc
        have hplus : c ≠ '+' := by rintro rfl; simp at hc
        simp [Decimal.takeSign, hminus, hplus]
  · intro ht
    unfold Decimal.takeSign at ht
    split at ht
    · cases ht; exact .minus _
    · cases ht; exact .plus _
    · cases ht; exact .bare _

/-- A sign can be read in one way only. -/
theorem exists_signed_iff {cs : List Char} {P : Bool → List Char → Prop} :
    (∃ negative ds, Signed cs negative ds ∧ AreDigits ds ∧ P negative ds) ↔
      AreDigits (Decimal.takeSign cs).2 ∧ P (Decimal.takeSign cs).1 (Decimal.takeSign cs).2 := by
  constructor
  · intro h
    obtain ⟨negative, ds, hs, hd, hp⟩ := h
    rw [signed_iff_takeSign hd] at hs
    rw [hs]
    exact ⟨hd, hp⟩
  · intro h
    obtain ⟨hd, hp⟩ := h
    exact ⟨_, _, (signed_iff_takeSign hd).mpr rfl, hd, hp⟩

instance (ds : List Char) : Decidable (AreDigits ds) :=
  decidable_of_iff (ds ≠ [] ∧ ds.all Char.isDigit = true) (by rw [List.all_eq_true]; rfl)

/-- The characters of a label that is a string.  Any other label has as many digits as none. -/
def numeralChars (label : Text) : List Char :=
  match label.encode with
  | .ok numeral => numeral.toList
  | .error _ => []

theorem numeralChars_empty : numeralChars "" = [] := rfl

/-- A label can be read as a string in one way only. -/
theorem exists_numeral_iff {label : Text} {P : List Char → Prop} (h : ¬ P []) :
    (∃ numeral : String, label = numeral ∧ P numeral.toList) ↔ P (numeralChars label) := by
  unfold numeralChars
  split
  · next numeral heq =>
    obtain rfl := Text.encode_eq_ok_iff.mp heq
    simp
  · next f heq =>
    simp only [h, iff_false, not_exists, not_and]
    rintro numeral rfl
    simp at heq

theorem denotes_iff (label : Text) (n : Int) :
    Denotes label n ↔ AreDigits (Decimal.takeSign (numeralChars label)).2 ∧
      n = signedValue (Decimal.takeSign (numeralChars label)).1
        (placeValue (Decimal.takeSign (numeralChars label)).2) := by
  unfold Denotes
  simp only [exists_signed_iff]
  exact exists_numeral_iff
    (P := fun cs => AreDigits (Decimal.takeSign cs).2 ∧ n = signedValue (Decimal.takeSign cs).1
      (placeValue (Decimal.takeSign cs).2)) fun h => h.1.1 rfl

theorem overlong_iff (label : Text) (d : Nat) :
    Overlong label d ↔ AreDigits (Decimal.takeSign (numeralChars label)).2 ∧
      (Decimal.takeSign (numeralChars label)).2.length = d ∧ Decimal.maxDigits < d := by
  unfold Overlong
  simp only [exists_signed_iff]
  exact exists_numeral_iff
    (P := fun cs => AreDigits (Decimal.takeSign cs).2 ∧ (Decimal.takeSign cs).2.length = d ∧
      Decimal.maxDigits < d) fun h => h.1.1 rfl

/-- Reading follows the grammar, short of numerals with too many digits. -/
theorem readPlainInteger_eq (cs : List Char) :
    Decimal.readPlainInteger cs =
      if AreDigits (Decimal.takeSign cs).2 then
        if Decimal.maxDigits < (Decimal.takeSign cs).2.length then
          .error (.tooLong (Decimal.takeSign cs).2.length)
        else .ok (signedValue (Decimal.takeSign cs).1 (placeValue (Decimal.takeSign cs).2))
      else .error .malformed := by
  unfold Decimal.readPlainInteger
  generalize Decimal.takeSign cs = s
  obtain ⟨negative, ds⟩ := s
  have hdigits : (ds.isEmpty || !ds.all Char.isDigit) = true ↔ ¬ AreDigits ds := by
    simp only [AreDigits, Bool.or_eq_true, List.isEmpty_iff, Bool.not_eq_true', ← Bool.not_eq_true,
      List.all_eq_true]
    tauto
  by_cases h : AreDigits ds
  · have h' : ¬ (ds.isEmpty || !ds.all Char.isDigit) = true := fun hn => hdigits.mp hn h
    simp only [h, h', if_true, natOfDigits_eq_placeValue, signedValue]
    simp
  · have h' : (ds.isEmpty || !ds.all Char.isDigit) = true := hdigits.mpr h
    simp only [h, h', if_true, if_false]

/-- What a label says, in terms of its sign and its digits. -/
theorem Count.ofLabel_eq (label : Text) :
    Count.ofLabel label =
      let (negative, ds) := Decimal.takeSign (numeralChars label)
      let n := signedValue negative (placeValue ds)
      if label = "" then .unknown
      else if AreDigits ds then
        if Decimal.maxDigits < ds.length then .tooLong ds.length
        else if -0x8000000000000000 ≤ n ∧ n < 0x8000000000000000 then .number n
        else .malformed
      else .malformed := by
  unfold Count.ofLabel numeralChars
  simp only [Text.isEmpty_iff]
  by_cases hempty : label = ""
  · subst hempty
    rfl
  cases label.encode with
  | error f =>
    rw [if_neg hempty, if_neg hempty]
    rfl
  | ok numeral =>
    dsimp only
    rw [if_neg hempty, if_neg hempty, readPlainInteger_eq]
    generalize Decimal.takeSign numeral.toList = s
    obtain ⟨negative, ds⟩ := s
    by_cases hd : AreDigits ds
    · rw [if_pos hd, if_pos hd]
      by_cases hlen : Decimal.maxDigits < ds.length
      · rw [if_pos hlen, if_pos hlen]
      · rw [if_neg hlen, if_neg hlen]
    · rw [if_neg hd, if_neg hd]

/-! ### The fate of an item -/

namespace DataItem

/-- The count of an item does not speak against it: it is not given, or it is a signed 64-bit integer
and not too low. -/
def IsKept (min : Int) (item : DataItem) : Prop :=
  item.label "Count" = "" ∨
    ∃ n, Denotes (item.label "Count") n ∧ -2 ^ 63 ≤ n ∧ n ≤ 2 ^ 63 - 1 ∧ min ≤ n

theorem isKept_iff (min : Int) (item : DataItem) :
    item.IsKept min ↔
      let (negative, ds) := Decimal.takeSign (numeralChars (item.label "Count"))
      let n := signedValue negative (placeValue ds)
      item.label "Count" = "" ∨
        (AreDigits ds ∧ -0x8000000000000000 ≤ n ∧ n < 0x8000000000000000 ∧ min ≤ n) := by
  unfold IsKept
  simp only [denotes_iff]
  constructor
  · intro h
    rcases h with h | ⟨n, ⟨hd, rfl⟩, hlow, hhigh, hmin⟩
    · exact Or.inl h
    · exact Or.inr ⟨hd, by omega, by omega, hmin⟩
  · intro h
    rcases h with h | ⟨hd, hlow, hhigh, hmin⟩
    · exact Or.inl h
    · exact Or.inr ⟨_, ⟨hd, rfl⟩, by omega, by omega, hmin⟩

instance (min : Int) (item : DataItem) : Decidable (item.IsKept min) :=
  decidable_of_iff' _ (isKept_iff min item)

/-- The number of digits of a count that cannot be read. -/
def refusal? (item : DataItem) : Option Nat :=
  match Count.ofLabel (item.label "Count") with
  | .tooLong digits => some digits
  | _ => none

theorem refusal?_eq_some_iff (item : DataItem) (d : Nat) :
    item.refusal? = some d ↔ Overlong (item.label "Count") d := by
  rw [overlong_iff]
  unfold refusal?
  rw [Count.ofLabel_eq]
  dsimp only
  split_ifs with hempty hd hlen hrange
  · simp [hempty, numeralChars_empty, Decimal.takeSign, AreDigits]
  · constructor
    · intro h
      cases h
      exact ⟨hd, rfl, hlen⟩
    · intro h
      obtain ⟨-, rfl, -⟩ := h
      rfl
  · constructor
    · nofun
    · intro h
      obtain ⟨-, rfl, hlong⟩ := h
      exact absurd hlong hlen
  · constructor
    · nofun
    · intro h
      obtain ⟨-, rfl, hlong⟩ := h
      exact absurd hlong hlen
  · simp [hd]

theorem fate_eq_refused_iff (min : Int) (item : DataItem) (d : Nat) :
    item.fate min = .refused d ↔ item.refusal? = some d := by
  unfold fate refusal?
  cases Count.ofLabel (item.label "Count") with
  | number n =>
    simp only [Count.fate]
    split <;> simp
  | _ => simp [Count.fate]

/-- An item whose count can be read is kept if the count does not speak against it, and left out
otherwise. -/
theorem fate_eq_of_refusal?_eq_none {item : DataItem} (h : item.refusal? = none) (min : Int) :
    item.fate min = if item.IsKept min then .kept else .dropped := by
  unfold refusal? at h
  unfold fate
  simp only [isKept_iff]
  rw [Count.ofLabel_eq] at h ⊢
  generalize item.label "Count" = label at h ⊢
  generalize Decimal.takeSign (numeralChars label) = s at h ⊢
  obtain ⟨negative, ds⟩ := s
  dsimp only at h ⊢
  generalize signedValue negative (placeValue ds) = n at h ⊢
  by_cases hempty : label = ""
  · simp [hempty, Count.fate]
  by_cases hd : AreDigits ds
  · by_cases hlen : Decimal.maxDigits < ds.length
    · simp [hempty, hd, hlen] at h
    · by_cases hrange : -0x8000000000000000 ≤ n ∧ n < 0x8000000000000000
      · -- The threshold decides.
        rw [if_neg hempty, if_pos hd, if_neg hlen, if_pos hrange]
        obtain ⟨hlow, hhigh⟩ := hrange
        by_cases hmin : n < min
        · have hmin' : ¬ min ≤ n := by omega
          simp [Count.fate, hmin, hmin', hempty]
        · have hmin' : min ≤ n := by omega
          rw [if_pos (Or.inr ⟨hd, hlow, hhigh, hmin'⟩)]
          simp [Count.fate, hmin]
      · rw [if_neg hempty, if_pos hd, if_neg hlen, if_neg hrange]
        have hnot : ¬ (label = "" ∨
            (AreDigits ds ∧ -0x8000000000000000 ≤ n ∧ n < 0x8000000000000000 ∧ min ≤ n)) := by
          intro h'
          rcases h' with h' | ⟨-, hlow, hhigh, -⟩
          · exact hempty h'
          · exact hrange ⟨hlow, hhigh⟩
        rw [if_neg hnot]
        rfl
  · simp [hempty, hd, Count.fate]

end DataItem

end BenchCompare
