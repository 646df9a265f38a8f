import BenchCompare.Json.Document
import BenchCompare.Proofs.Json.Lexeme

/-! # How deep a JSON text is nested

  Every container that is open has an opening bracket or brace in front of it in the
  text.  The reader never has more containers open than it has read of these
  (`open_step_le`), so a text without many of them is not nested too deep.

  Main statement: `parse_tooDeep`.
-/

namespace BenchCompare.Json

/-- Whether a character opens a container. -/
def opensContainer (c : Char) : Bool := c = '[' || c = '\x7b'

/-- Whether a lexeme opens a container. -/
def Lexeme.opens : Lexeme → Bool
  | openArray | openObject => true
  | _ => false

/-! ### Lexemes -/

theorem opens_takeLexeme {index : Nat} {c : Char} {rest : List Char} {l : Lexeme}
    {behind : Option (Nat × List Char)} (h : takeLexeme index c rest = (l, behind)) (hl : l.opens = true) :
    opensContainer c = true ∧ behind = some (index + 1, rest) := by
  unfold takeLexeme at h
  dsimp only at h
  split at h
  case h_1 =>
    cases h
    exact ⟨rfl, rfl⟩
  case h_3 =>
    cases h
    exact ⟨rfl, rfl⟩
  case h_7 => split at h <;> cases h <;> cases hl
  case h_8 =>
    split at h
    · cases h
      cases hl
    · split at h
      · cases h
        unfold numeralLexeme at hl
        split at hl
        · cases hl
        · cases hl
        · split at hl <;> cases hl
      · cases h
        cases hl
  all_goals
    cases h
    cases hl

/-- Different lexemes that open a container stand at different characters. -/
theorem countP_lexemesFrom_le (fuel index : Nat) (cs : List Char) :
    (lexemesFrom fuel index cs).countP (·.1.opens) ≤ cs.countP opensContainer := by
  induction fuel generalizing index cs with
  | zero => exact Nat.zero_le _
  | succ fuel ih =>
    have hspaces := (List.drop_sublist (cs.takeWhile isSpace).length cs).countP_le (p := opensContainer)
    simp only [lexemesFrom]
    split
    · exact Nat.zero_le _
    · next c rest hcs =>
      rw [hcs] at hspaces
      split
      · next l next cs' hlexeme =>
        refine Nat.le_trans ?_ hspaces
        rw [List.countP_cons]
        cases hl : l.opens with
        | true =>
          obtain ⟨hc, hbehind⟩ := opens_takeLexeme hlexeme hl
          cases hbehind
          rw [List.countP_cons, hc]
          exact Nat.add_le_add_right (ih _ _) _
        | false =>
          have hrest := (takeLexeme_suffix hlexeme).sublist.countP_le (p := opensContainer)
          exact Nat.le_trans (ih _ _) hrest
      · next l hlexeme =>
        refine Nat.le_trans ?_ hspaces
        cases hl : l.opens with
        | true =>
          obtain ⟨-, hbehind⟩ := opens_takeLexeme hlexeme hl
          cases hbehind
        | false => simp [hl]

/-! ### The reader -/

/-- How many containers are open.  One whose next name is awaited is not on the stack. -/
def openCount : List Frame × Awaited → Nat
  | (stack, .name _) => stack.length + 1
  | (stack, _) => stack.length

variable {depth index : Nat} {l : Lexeme} {stack : List Frame} {state state' : List Frame × Awaited}

theorem open_startValue_le (h : startValue depth l index stack = .ok state') :
    openCount state' ≤ stack.length + if l.opens then 1 else 0 := by
  unfold startValue openContainer at h
  cases l with
  | openArray =>
    dsimp only at h
    split at h
    · cases h
      exact Nat.le_refl _
    · cases h
  | openObject =>
    dsimp only at h
    split at h
    · cases h
      exact Nat.le_refl _
    · cases h
  | string s =>
    cases h
    exact Nat.le_refl _
  | scalar v =>
    cases h
    exact Nat.le_refl _
  | _ => cases h

theorem open_startField_le {fields : List (Text × Json)}
    (h : startField l index fields stack = .ok state') : openCount state' ≤ stack.length + 1 := by
  cases l with
  | string s =>
    cases h
    exact Nat.le_refl _
  | _ => cases h

/-- A step opens a container only if its lexeme does. -/
theorem open_step_le (h : step depth l index state = .ok state') :
    openCount state' ≤ openCount state + if l.opens then 1 else 0 := by
  unfold step at h
  split at h
  case h_1 => exact open_startValue_le h
  case h_2 =>
    split at h
    · cases h
      exact Nat.le_succ _
    · exact open_startValue_le h
  case h_3 =>
    split at h
    · cases h
      exact Nat.le_succ _
    · exact Nat.le_trans (open_startField_le h) (Nat.le_add_right _ _)
  case h_4 => exact Nat.le_trans (open_startField_le h) (Nat.le_add_right _ _)
  case h_5 =>
    split at h
    · cases h
      exact Nat.le_refl _
    · cases h
  case h_6 =>
    split at h
    · cases h
      exact Nat.le_succ _
    · cases h
      exact Nat.le_refl _
    · cases h
  case h_7 =>
    split at h
    · cases h
      exact Nat.le_succ _
    · cases h
      exact Nat.le_refl _
    · cases h
  case h_8 => cases h

theorem startValue_tooDeep {container : String}
    (h : startValue depth l index stack = .error (.tooDeep container)) :
    l.opens = true ∧ depth ≤ stack.length := by
  unfold startValue openContainer at h
  cases l with
  | openArray =>
    dsimp only at h
    split at h
    · cases h
    · next hfull => exact ⟨rfl, Nat.le_of_not_lt hfull⟩
  | openObject =>
    dsimp only at h
    split at h
    · cases h
    · next hfull => exact ⟨rfl, Nat.le_of_not_lt hfull⟩
  | _ => cases h

theorem startField_ne_tooDeep (l : Lexeme) (index : Nat) (fields : List (Text × Json))
    (stack : List Frame) (container : String) :
    startField l index fields stack ≠ .error (.tooDeep container) := by
  intro h
  cases l <;> cases h

/-- A step goes too deep only if it should open a container and enough of them are open. -/
theorem step_tooDeep {container : String} (h : step depth l index state = .error (.tooDeep container)) :
    l.opens = true ∧ depth ≤ openCount state := by
  unfold step at h
  split at h
  case h_1 => exact startValue_tooDeep h
  case h_2 =>
    split at h
    · cases h
    · exact startValue_tooDeep h
  case h_3 =>
    split at h
    · cases h
    · exact absurd h (startField_ne_tooDeep _ _ _ _ container)
  case h_4 => exact absurd h (startField_ne_tooDeep _ _ _ _ container)
  case h_5 => split at h <;> cases h
  case h_6 => split at h <;> cases h
  case h_7 => split at h <;> cases h
  case h_8 => cases h

/-- The reader goes too deep only if enough containers are open or still to be opened. -/
theorem readFrom_tooDeep {ls : List (Lexeme × Nat)} {container : String}
    (h : readFrom depth state ls = .error (.tooDeep container)) :
    depth < openCount state + ls.countP (·.1.opens) := by
  induction ls generalizing state with
  | nil =>
    rw [readFrom.eq_def] at h
    split at h
    · next heq => cases heq
    · next heq => cases heq
    · cases h
  | cons e ls ih =>
    obtain ⟨l, index⟩ := e
    rw [readFrom.eq_def] at h
    rw [List.countP_cons]
    split at h
    · split at h <;> cases h
    · next heq =>
      cases heq
      split at h
      · next hstep =>
        have hopen := open_step_le hstep
        have hrest := ih h
        dsimp only
        omega
      · next fault hstep =>
        cases h
        obtain ⟨hl, hdepth⟩ := step_tooDeep hstep
        dsimp only
        rw [if_pos hl]
        omega
    · next heq => cases heq

/-- A text that is nested too deep has more opening brackets and braces than may lie inside one another. -/
theorem parse_tooDeep {cs : List Char} {container : String}
    (h : parse depth cs = .error (.tooDeep container)) : depth < cs.countP opensContainer := by
  unfold parse at h
  split at h
  · cases h
  · have hlexemes := readFrom_tooDeep h
    rw [show openCount ([], .value) = 0 from rfl, Nat.zero_add] at hlexemes
    exact Nat.lt_of_lt_of_le hlexemes (countP_lexemesFrom_le _ _ _)

end BenchCompare.Json
