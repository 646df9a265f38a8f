import BenchCompare.Json.Document
import BenchCompare.Proofs.Json.Lexeme

/-! # Integers that are too long to be read

  Besides the grammar there is one thing that makes a JSON text unreadable: an
  integer with more digits than are read.  Its digits stand in the text one
  behind the other, so a text without so many digits in a row is safe.

  The digits are followed from the text to the reader: they come from a numeral
  in the text (`takeLexeme_longInteger`), and the reader has no such fault of its
  own (`step_longInteger`).

  Main statement: `parse_longInteger`.
-/

namespace BenchCompare

/-- A text has so many digits one behind the other. -/
def HasDigits (cs : List Char) (n : Nat) : Prop :=
  ∃ ds, ds <:+: cs ∧ ds.length = n ∧ ds.all Char.isDigit = true

theorem HasDigits.mono {cs cs' : List Char} {n : Nat} (h : HasDigits cs n) (hcs : cs <:+: cs') :
    HasDigits cs' n := by
  obtain ⟨ds, hds, hlength, hdigits⟩ := h
  exact ⟨ds, hds.trans hcs, hlength, hdigits⟩

namespace Json

/-! ### Numerals -/

theorem takeSign_suffix (cs : List Char) : (Decimal.takeSign cs).2 <:+ cs := by
  unfold Decimal.takeSign
  split
  · exact List.suffix_cons _ _
  · exact List.suffix_cons _ _
  · exact List.suffix_rfl

theorem readPlainInteger_tooLong {cs : List Char} {d : Nat}
    (h : Decimal.readPlainInteger cs = .error (.tooLong d)) :
    Decimal.maxDigits < d ∧ HasDigits cs d := by
  unfold Decimal.readPlainInteger at h
  dsimp only at h
  split at h
  · cases h
  · next hdigits =>
    rw [Bool.or_eq_true, not_or, Bool.not_eq_true', Bool.not_eq_false] at hdigits
    split at h
    · next hlong =>
      cases h
      exact ⟨hlong, _, (takeSign_suffix cs).isInfix, rfl, hdigits.2⟩
    · cases h

theorem numeralLexeme_longInteger {numeral : List Char} {d : Nat}
    (h : numeralLexeme numeral = .longInteger d) : Decimal.maxDigits < d ∧ HasDigits numeral d := by
  unfold numeralLexeme at h
  split at h
  · cases h
  · next hlong =>
    cases h
    exact readPlainInteger_tooLong hlong
  · split at h <;> cases h

/-! ### Lexemes -/

theorem takeLexeme_longInteger {index d : Nat} {c : Char} {rest : List Char}
    {behind : Option (Nat × List Char)} (h : takeLexeme index c rest = (.longInteger d, behind)) :
    Decimal.maxDigits < d ∧ HasDigits (c :: rest) d := by
  unfold takeLexeme at h
  dsimp only at h
  split at h
  case h_7 => split at h <;> cases h
  case h_8 =>
    split at h
    · cases h
    · split at h
      · next numeral hnumeral =>
        obtain ⟨hlong, hdigits⟩ := numeralLexeme_longInteger (Prod.mk.inj h).1
        exact ⟨hlong, hdigits.mono (takeNumeral_isPrefix hnumeral).isInfix⟩
      · cases h
  all_goals cases h

theorem longInteger_of_mem_lexemesFrom {fuel index d i : Nat} {cs : List Char}
    (h : (Lexeme.longInteger d, i) ∈ lexemesFrom fuel index cs) :
    Decimal.maxDigits < d ∧ HasDigits cs d := by
  rcases mem_lexemesFrom h with hend | ⟨c, rest, behind, hsuffix, hlexeme⟩
  · cases hend
  · obtain ⟨hlong, hdigits⟩ := takeLexeme_longInteger hlexeme
    exact ⟨hlong, hdigits.mono hsuffix.isInfix⟩

/-! ### The reader -/

theorem startValue_longInteger {depth : Nat} {l : Lexeme} {index : Nat} {stack : List Frame} {d : Nat}
    (h : startValue depth l index stack = .error (.longInteger d)) : l = .longInteger d := by
  unfold startValue openContainer at h
  cases l with
  | longInteger n =>
    cases h
    rfl
  | openArray => dsimp only at h; split at h <;> cases h
  | openObject => dsimp only at h; split at h <;> cases h
  | _ => cases h

theorem startField_ne_longInteger (l : Lexeme) (index : Nat) (fields : List (Text × Json))
    (stack : List Frame) (d : Nat) : startField l index fields stack ≠ .error (.longInteger d) := by
  intro h
  cases l <;> cases h

/-- A step has the fault only if its lexeme is such an integer. -/
theorem step_longInteger {depth : Nat} {l : Lexeme} {index : Nat} {state : List Frame × Awaited} {d : Nat}
    (h : step depth l index state = .error (.longInteger d)) : l = .longInteger d := by
  unfold step at h
  split at h
  case h_1 => exact startValue_longInteger h
  case h_2 =>
    split at h
    · cases h
    · exact startValue_longInteger h
  case h_3 =>
    split at h
    · cases h
    · exact absurd h (startField_ne_longInteger _ _ _ _ d)
  case h_4 => exact absurd h (startField_ne_longInteger _ _ _ _ d)
  case h_5 => split at h <;> cases h
  case h_6 => split at h <;> cases h
  case h_7 => split at h <;> cases h
  case h_8 => cases h

/-- The reader has the fault only if one of its lexemes is such an integer. -/
theorem readFrom_longInteger {depth : Nat} {state : List Frame × Awaited} {ls : List (Lexeme × Nat)} {d : Nat}
    (h : readFrom depth state ls = .error (.longInteger d)) : ∃ i, (Lexeme.longInteger d, i) ∈ ls := by
  induction ls generalizing state with
  | nil =>
    rw [readFrom.eq_def] at h
    split at h
    · next heq => cases heq
    · next heq => cases heq
    · cases h
  | cons e ls ih =>
    obtain ⟨l, index⟩ := e
    rw [readFrom.eq_def] at h
    split at h
    · split at h <;> cases h
    · next heq =>
      cases heq
      split at h
      · obtain ⟨i, hi⟩ := ih h
        exact ⟨i, List.mem_cons_of_mem _ hi⟩
      · next fault hstep =>
        cases h
        obtain rfl := step_longInteger hstep
        exact ⟨index, List.mem_cons_self⟩
    · next heq => cases heq

/-- An integer that is too long to be read has its digits in the text, one behind the other. -/
theorem parse_longInteger {depth : Nat} {cs : List Char} {d : Nat} (h : parse depth cs = .error (.longInteger d)) :
    Decimal.maxDigits < d ∧ HasDigits cs d := by
  unfold parse at h
  split at h
  · cases h
  · obtain ⟨i, hi⟩ := readFrom_longInteger h
    exact longInteger_of_mem_lexemesFrom hi

end Json

end BenchCompare
