import BenchCompare.Proofs.Comparison.Count
import BenchCompare.Proofs.Text.Blank
import Mathlib.Tactic.IntervalCases

/-! # Which texts are integers

  An integer is written with decimal digits of any set, a sign in front or none,
  single underscores between digits, and blanks around the whole.  The grammar
  here says so without taking anything out of the text, and gives the values of
  the digits.

  * `Grouped cs ds`: the characters are digits of these values, perhaps with
    underscores between them.
  * `IsInteger s negative ds`: the text is an integer with this sign and these
    digits.
  * `decimalValue ds`: the number that the digits denote, by place.

  Main statement: `readInteger_eq_ok_iff`.  An integer is read exactly as it is
  written, unless it has too many digits.
-/

namespace BenchCompare.Decimal

/-- Digits, and perhaps single underscores between them, with the values of the digits. -/
inductive Grouped : List Char → List Nat → Prop
  /-- The last digit. -/
  | last {c : Char} {d : Nat} (digit : Text.digitValue? c = some d) : Grouped [c] [d]
  /-- A digit and more of them. -/
  | next {c : Char} {d : Nat} {cs : List Char} {ds : List Nat}
      (digit : Text.digitValue? c = some d) (rest : Grouped cs ds) : Grouped (c :: cs) (d :: ds)
  /-- A digit, an underscore, and more digits. -/
  | apart {c : Char} {d : Nat} {cs : List Char} {ds : List Nat}
      (digit : Text.digitValue? c = some d) (rest : Grouped cs ds) :
      Grouped (c :: '_' :: cs) (d :: ds)

/-- A text of a sign, which may be missing, and digits, with blanks around them. -/
def IsInteger (s : String) (negative : Bool) (ds : List Nat) : Prop :=
  ∃ before cs digits after, s.toList = before ++ cs ++ after ∧
    (∀ c ∈ before, Text.isNumeralBlank c = true) ∧ (∀ c ∈ after, Text.isNumeralBlank c = true) ∧
    Signed cs negative digits ∧ Grouped digits ds

/-- The number that digits denote: the last one counts ones. -/
def decimalValue (ds : List Nat) : Nat := Nat.ofDigits 10 ds.reverse

/-! ### Digits of all sets -/

section

variable {c : Char} {d : Nat}

theorem exists_zero_of_digit (h : Text.digitValue? c = some d) :
    ∃ start ∈ Text.digitZeros, c.toNat = start + d ∧ d < 10 := by
  unfold Text.digitValue? at h
  rw [Option.map_eq_some_iff] at h
  obtain ⟨start, hfind, rfl⟩ := h
  have hrange := List.find?_some (p := fun start => start ≤ c.toNat && c.toNat < start + 10) hfind
  simp only [Bool.and_eq_true, decide_eq_true_eq] at hrange
  exact ⟨start, List.mem_of_find?_eq_some hfind, by omega, by omega⟩

theorem digit_lt_ten (h : Text.digitValue? c = some d) : d < 10 := by
  obtain ⟨_, -, -, hlt⟩ := exists_zero_of_digit h
  exact hlt

/-- No set of digits has a blank character in it. -/
theorem isBlank_of_digit (h : Text.digitValue? c = some d) : Text.isBlank c = false := by
  obtain ⟨start, hstart, hc, hd⟩ := exists_zero_of_digit h
  have hsets : ∀ start ∈ Text.digitZeros, ∀ range ∈ Text.blankRanges,
      start + 10 ≤ range.1 ∨ range.2 < start := by decide
  rw [Text.isBlank, List.any_eq_false]
  intro range hrange
  have hapart := hsets start hstart range hrange
  simp only [Bool.and_eq_true, decide_eq_true_eq]
  omega

theorem isNumeralBlank_of_digit (h : Text.digitValue? c = some d) :
    Text.isNumeralBlank c = false := by
  simp [Text.isNumeralBlank, isBlank_of_digit h]

theorem foldDigit_of_digit (h : Text.digitValue? c = some d) :
    Text.foldDigit c = Char.ofNat ('0'.toNat + d) := by
  simp [Text.foldDigit, h]

theorem foldDigit_of_none (h : Text.digitValue? c = none) : Text.foldDigit c = c := by
  simp [Text.foldDigit, h]

theorem foldDigit_spec (h : Text.digitValue? c = some d) :
    (Text.foldDigit c).isDigit = true ∧ (Text.foldDigit c).toNat - '0'.toNat = d := by
  rw [foldDigit_of_digit h]
  have hd := digit_lt_ten h
  interval_cases d <;> decide

/-- A character that is no digit of any set is no ASCII digit. -/
theorem isDigit_of_none (h : Text.digitValue? c = none) : c.isDigit = false := by
  rw [Bool.eq_false_iff]
  intro hdigit
  have hrange : 48 ≤ c.toNat ∧ c.toNat < 48 + 10 := by
    simp only [Char.isDigit, Bool.and_eq_true, decide_eq_true_eq, ge_iff_le, UInt32.le_iff_toNat_le] at hdigit
    exact ⟨hdigit.1, Nat.lt_succ_of_le hdigit.2⟩
  unfold Text.digitValue? at h
  rw [Option.map_eq_none_iff, List.find?_eq_none] at h
  have hzero := h 48 (by decide)
  simp only [Bool.and_eq_true, decide_eq_true_eq] at hzero
  exact hzero hrange

theorem isBlank_of_isDigit (h : c.isDigit = true) : Text.isBlank c = false := by
  cases hc : Text.digitValue? c with
  | some d => exact isBlank_of_digit hc
  | none =>
    rw [isDigit_of_none hc] at h
    cases h

theorem digit_of_isDigit_foldDigit (h : (Text.foldDigit c).isDigit = true) :
    Text.digitValue? c = some ((Text.foldDigit c).toNat - '0'.toNat) := by
  cases hc : Text.digitValue? c with
  | some d => rw [(foldDigit_spec hc).2]
  | none =>
    rw [foldDigit_of_none hc, isDigit_of_none hc] at h
    cases h

/-- A character that is no digit is not made of another one. -/
theorem foldDigit_eq_iff {x : Char} (hx : Text.digitValue? x = none) :
    Text.foldDigit c = x ↔ c = x := by
  constructor
  · intro h
    cases hc : Text.digitValue? c with
    | some d =>
      have hdigit := (foldDigit_spec hc).1
      rw [h, isDigit_of_none hx] at hdigit
      cases hdigit
    | none => rwa [foldDigit_of_none hc] at h
  · rintro rfl
    exact foldDigit_of_none hx

end

/-! ### Underscores -/

/-- The values of ASCII digits. -/
def digitValues (ds : List Char) : List Nat := ds.map fun c => c.toNat - '0'.toNat

theorem placeValue_eq (ds : List Char) : placeValue ds = decimalValue (digitValues ds) := by
  rw [placeValue, decimalValue, digitValues, List.map_reverse]

theorem dropUnderscores_cons_of_ne {c : Char} (h : c ≠ '_') (previous : Char) (cs : List Char) :
    dropUnderscores previous (c :: cs) = (dropUnderscores c cs).map (c :: ·) := by
  rw [dropUnderscores]
  exact h

/-- An underscore stands between two digits. -/
theorem dropUnderscores_underscore {previous : Char} {cs ds : List Char} :
    dropUnderscores previous ('_' :: cs) = some ds ↔
      previous.isDigit = true ∧ cs.head?.any Char.isDigit = true ∧
        dropUnderscores '_' cs = some ds := by
  rw [dropUnderscores]
  simp [and_assoc]

/-- An underscore has a digit behind it, so nothing is left of nothing only. -/
theorem eq_nil_of_dropUnderscores {previous : Char} {cs : List Char}
    (h : dropUnderscores previous cs = some []) : cs = [] := by
  cases cs with
  | nil => rfl
  | cons c cs =>
    by_cases hc : c = '_'
    · subst hc
      obtain ⟨-, hnext, hrest⟩ := dropUnderscores_underscore.mp h
      cases cs with
      | nil => simp at hnext
      | cons c' cs =>
        have hc' : c' ≠ '_' := by
          rintro rfl
          simp at hnext
        rw [dropUnderscores_cons_of_ne hc'] at hrest
        simp at hrest
    · rw [dropUnderscores_cons_of_ne hc] at h
      simp at h

/-- If digits are left, there were digits, and perhaps an underscore in front of them. -/
theorem grouped_of_dropUnderscores {previous : Char} {cs ds : List Char} (hd : AreDigits ds)
    (h : dropUnderscores previous (cs.map Text.foldDigit) = some ds) :
    Grouped cs (digitValues ds) ∨
      ∃ rest, cs = '_' :: rest ∧ previous.isDigit = true ∧ Grouped rest (digitValues ds) := by
  induction cs generalizing previous ds with
  | nil =>
    cases h
    exact absurd rfl hd.1
  | cons c cs ih =>
    rw [List.map_cons] at h
    by_cases hc : c = '_'
    · -- The underscore stands behind a digit, and no second one follows.
      subst hc
      rw [foldDigit_of_none (by decide), dropUnderscores_underscore] at h
      obtain ⟨hprevious, -, hrest⟩ := h
      rcases ih hd hrest with hgrouped | ⟨_, -, hunderscore, -⟩
      · exact .inr ⟨cs, rfl, hprevious, hgrouped⟩
      · exact absurd hunderscore (by decide)
    · have hfold : Text.foldDigit c ≠ '_' := by
        rw [ne_eq, foldDigit_eq_iff (by decide)]
        exact hc
      rw [dropUnderscores_cons_of_ne hfold, Option.map_eq_some_iff] at h
      obtain ⟨ds', hrest, rfl⟩ := h
      have hdigit := digit_of_isDigit_foldDigit (hd.2 _ List.mem_cons_self)
      by_cases hnil : ds' = []
      · subst hnil
        have hcs : cs = [] := by simpa using eq_nil_of_dropUnderscores hrest
        subst hcs
        exact .inl (.last hdigit)
      · have hd' : AreDigits ds' := ⟨hnil, fun c' hc' => hd.2 c' (List.mem_cons_of_mem _ hc')⟩
        rcases ih hd' hrest with hgrouped | ⟨rest, rfl, -, hgrouped⟩
        · exact .inl (.next hdigit hgrouped)
        · exact .inl (.apart hdigit hgrouped)

/-- Of digits with underscores between them the digits are left. -/
theorem dropUnderscores_of_grouped {cs : List Char} {ds : List Nat} (h : Grouped cs ds)
    (previous : Char) : ∃ ds', dropUnderscores previous (cs.map Text.foldDigit) = some ds' ∧
      AreDigits ds' ∧ digitValues ds' = ds := by
  have hfold : ∀ {c : Char} {d : Nat}, Text.digitValue? c = some d → Text.foldDigit c ≠ '_' := by
    intro c d hdigit hunderscore
    have hascii := (foldDigit_spec hdigit).1
    rw [hunderscore] at hascii
    exact absurd hascii (by decide)
  have hcons : ∀ {c : Char} {d : Nat} {ds' : List Char} {ds : List Nat},
      Text.digitValue? c = some d → AreDigits ds' → digitValues ds' = ds →
      AreDigits (Text.foldDigit c :: ds') ∧ digitValues (Text.foldDigit c :: ds') = d :: ds := by
    intro c d ds' ds hdigit hds' hvalues
    refine ⟨⟨List.cons_ne_nil _ _, List.forall_mem_cons.mpr ⟨(foldDigit_spec hdigit).1, hds'.2⟩⟩, ?_⟩
    rw [← hvalues, digitValues, List.map_cons, (foldDigit_spec hdigit).2]
    rfl
  induction h generalizing previous with
  | @last c d digit =>
    refine ⟨[Text.foldDigit c], ?_, ⟨List.cons_ne_nil _ _, ?_⟩, ?_⟩
    · rw [List.map_singleton, dropUnderscores_cons_of_ne (hfold digit)]
      rfl
    · simpa using (foldDigit_spec digit).1
    · simpa [digitValues] using (foldDigit_spec digit).2
  | @next c d cs ds digit rest ih =>
    obtain ⟨ds', hrest, hds', hvalues⟩ := ih (Text.foldDigit c)
    refine ⟨Text.foldDigit c :: ds', ?_, hcons digit hds' hvalues⟩
    rw [List.map_cons, dropUnderscores_cons_of_ne (hfold digit), hrest]
    rfl
  | @apart c d cs ds digit rest ih =>
    obtain ⟨ds', hrest, hds', hvalues⟩ := ih '_'
    refine ⟨Text.foldDigit c :: ds', ?_, hcons digit hds' hvalues⟩
    -- Behind the underscore there is a digit.
    have hnext : (cs.map Text.foldDigit).head?.any Char.isDigit = true := by
      cases rest with
      | last digit' => simpa using (foldDigit_spec digit').1
      | next digit' _ => simpa using (foldDigit_spec digit').1
      | apart digit' _ => simpa using (foldDigit_spec digit').1
    have hunderscore : dropUnderscores (Text.foldDigit c) ('_' :: cs.map Text.foldDigit) = some ds' :=
      dropUnderscores_underscore.mpr ⟨(foldDigit_spec digit).1, hnext, hrest⟩
    rw [List.map_cons, List.map_cons, dropUnderscores_cons_of_ne (hfold digit),
      foldDigit_of_none (by decide : Text.digitValue? '_' = none), hunderscore]
    rfl

/-! ### Signs -/

/-- What is left of a text is a sign and digits exactly if the text is a sign and digits, perhaps with
underscores between them. -/
theorem exists_signed_grouped_iff {cs : List Char} {negative : Bool} {ds : List Nat} :
    (∃ digits, Signed cs negative digits ∧ Grouped digits ds) ↔
      ∃ cs' ds', dropUnderscores ' ' (cs.map Text.foldDigit) = some cs' ∧
        Signed cs' negative ds' ∧ AreDigits ds' ∧ digitValues ds' = ds := by
  constructor
  · rintro ⟨digits, hsigned, hgrouped⟩
    cases hsigned with
    | bare =>
      obtain ⟨ds', hdrop, hds', hvalues⟩ := dropUnderscores_of_grouped hgrouped ' '
      exact ⟨ds', ds', hdrop, .bare ds', hds', hvalues⟩
    | plus =>
      obtain ⟨ds', hdrop, hds', hvalues⟩ := dropUnderscores_of_grouped hgrouped '+'
      refine ⟨'+' :: ds', ds', ?_, .plus ds', hds', hvalues⟩
      rw [List.map_cons, foldDigit_of_none (by decide), dropUnderscores_cons_of_ne (by decide), hdrop]
      rfl
    | minus =>
      obtain ⟨ds', hdrop, hds', hvalues⟩ := dropUnderscores_of_grouped hgrouped '-'
      refine ⟨'-' :: ds', ds', ?_, .minus ds', hds', hvalues⟩
      rw [List.map_cons, foldDigit_of_none (by decide), dropUnderscores_cons_of_ne (by decide), hdrop]
      rfl
  · rintro ⟨cs', ds', hdrop, hsigned, hds', hvalues⟩
    -- Neither a blank nor a sign has an underscore behind it.
    have hgroup : ∀ {previous : Char} {rest : List Char}, previous.isDigit = false →
        dropUnderscores previous (rest.map Text.foldDigit) = some ds' → Grouped rest ds := by
      intro previous rest hprevious hrest
      rcases grouped_of_dropUnderscores hds' hrest with hgrouped | ⟨_, -, hdigit, -⟩
      · rwa [← hvalues]
      · rw [hprevious] at hdigit
        cases hdigit
    -- A sign that is left was the first character.
    have hsign : ∀ {sign : Char}, sign ≠ '_' → Text.digitValue? sign = none → sign.isDigit = false →
        dropUnderscores ' ' (cs.map Text.foldDigit) = some (sign :: ds') →
        ∃ rest, cs = sign :: rest ∧ Grouped rest ds := by
      intro sign hunderscore hnone hdigit hdrop
      cases cs with
      | nil => cases hdrop
      | cons c rest =>
        rw [List.map_cons] at hdrop
        by_cases hc : Text.foldDigit c = '_'
        · rw [hc, dropUnderscores_underscore] at hdrop
          exact absurd hdrop.1 (by decide)
        · rw [dropUnderscores_cons_of_ne hc, Option.map_eq_some_iff] at hdrop
          obtain ⟨ds'', hrest, heq⟩ := hdrop
          obtain ⟨hfirst, rfl⟩ := List.cons.inj heq
          rw [hfirst] at hrest
          exact ⟨rest, by rw [(foldDigit_eq_iff hnone).mp hfirst], hgroup hdigit hrest⟩
    cases hsigned with
    | bare => exact ⟨cs, .bare cs, hgroup (by decide) hdrop⟩
    | plus =>
      obtain ⟨rest, rfl, hgrouped⟩ := hsign (by decide) (by decide) (by decide) hdrop
      exact ⟨rest, .plus rest, hgrouped⟩
    | minus =>
      obtain ⟨rest, rfl, hgrouped⟩ := hsign (by decide) (by decide) (by decide) hdrop
      exact ⟨rest, .minus rest, hgrouped⟩

/-! ### Blanks -/

theorem Grouped.exists_first {cs : List Char} {ds : List Nat} (h : Grouped cs ds) :
    ∃ c rest, cs = c :: rest ∧ Text.isNumeralBlank c = false := by
  cases h with
  | last digit => exact ⟨_, _, rfl, isNumeralBlank_of_digit digit⟩
  | next digit _ => exact ⟨_, _, rfl, isNumeralBlank_of_digit digit⟩
  | apart digit _ => exact ⟨_, _, rfl, isNumeralBlank_of_digit digit⟩

theorem Grouped.exists_last {cs : List Char} {ds : List Nat} (h : Grouped cs ds) :
    ∃ rest c, cs = rest ++ [c] ∧ Text.isNumeralBlank c = false := by
  induction h with
  | last digit => exact ⟨[], _, rfl, isNumeralBlank_of_digit digit⟩
  | @next c _ _ _ _ _ ih =>
    obtain ⟨rest, last, hcs, hlast⟩ := ih
    exact ⟨c :: rest, last, by rw [hcs, List.cons_append], hlast⟩
  | @apart c _ _ _ _ _ ih =>
    obtain ⟨rest, last, hcs, hlast⟩ := ih
    exact ⟨c :: '_' :: rest, last, by rw [hcs, List.cons_append, List.cons_append], hlast⟩

/-- The blanks around an integer are what is cut off. -/
theorem isInteger_iff {s : String} {negative : Bool} {ds : List Nat} :
    IsInteger s negative ds ↔
      ∃ digits, Signed (Text.trim Text.isNumeralBlank s.toList) negative digits ∧
        Grouped digits ds := by
  constructor
  · rintro ⟨before, cs, digits, after, hs, hbefore, hafter, hsigned, hgrouped⟩
    have hfirst : ∃ c rest, cs = c :: rest ∧ Text.isNumeralBlank c = false := by
      cases hsigned with
      | bare => exact hgrouped.exists_first
      | plus => exact ⟨_, _, rfl, by decide⟩
      | minus => exact ⟨_, _, rfl, by decide⟩
    have hlast : ∃ rest c, cs = rest ++ [c] ∧ Text.isNumeralBlank c = false := by
      obtain ⟨rest, c, hdigits, hc⟩ := hgrouped.exists_last
      cases hsigned with
      | bare => exact ⟨rest, c, hdigits, hc⟩
      | plus => exact ⟨'+' :: rest, c, by rw [hdigits, List.cons_append], hc⟩
      | minus => exact ⟨'-' :: rest, c, by rw [hdigits, List.cons_append], hc⟩
    rw [hs, Text.trim_append hbefore hafter hfirst hlast]
    exact ⟨digits, hsigned, hgrouped⟩
  · rintro ⟨digits, hsigned, hgrouped⟩
    obtain ⟨before, after, hs, hbefore, hafter⟩ :=
      Text.exists_append_trim_append Text.isNumeralBlank s.toList
    exact ⟨before, _, digits, after, hs, hbefore, hafter, hsigned, hgrouped⟩

/-! ### Main statement -/

/-- **An integer is read as it is written**, if it has few enough digits, and nothing else is read. -/
theorem readInteger_eq_ok_iff {s : String} {n : Int} :
    readInteger s = .ok n ↔ ∃ negative ds, IsInteger s negative ds ∧ ds.length ≤ maxDigits ∧
      n = signedValue negative (decimalValue ds) := by
  have hplain : ∀ cs, readPlainInteger cs = .ok n ↔ ∃ negative ds, Signed cs negative ds ∧
      AreDigits ds ∧ ds.length ≤ maxDigits ∧ n = signedValue negative (placeValue ds) := by
    intro cs
    rw [exists_signed_iff (P := fun negative ds => ds.length ≤ maxDigits ∧
      n = signedValue negative (placeValue ds)), readPlainInteger_eq]
    by_cases hdigits : AreDigits (takeSign cs).2
    · by_cases hlong : maxDigits < (takeSign cs).2.length
      · simp [hdigits, hlong]
      · simp [hdigits, hlong, Nat.le_of_not_lt hlong, eq_comm]
    · simp [hdigits]
  unfold readInteger plainNumeral
  simp only [isInteger_iff, exists_signed_grouped_iff]
  constructor
  · intro h
    split at h
    · cases h
    · next cs hdrop =>
      obtain ⟨negative, ds, hsigned, hdigits, hshort, rfl⟩ := (hplain cs).mp h
      refine ⟨negative, digitValues ds, ⟨cs, ds, hdrop, hsigned, hdigits, rfl⟩, ?_, ?_⟩
      · simpa [digitValues] using hshort
      · rw [placeValue_eq]
  · rintro ⟨negative, ds, ⟨cs, ds', hdrop, hsigned, hdigits, rfl⟩, hshort, rfl⟩
    rw [hdrop]
    refine (hplain cs).mpr ⟨negative, ds', hsigned, hdigits, ?_, ?_⟩
    · simpa [digitValues] using hshort
    · rw [placeValue_eq]

end BenchCompare.Decimal
