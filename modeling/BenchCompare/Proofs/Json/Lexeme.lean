import BenchCompare.Json.Lexeme

/-! # Where lexemes come from

  Every text that is left for a further lexeme is an end of the whole text, and a
  numeral is the start of what is left.

  Main statement: `mem_lexemesFrom`.
-/

namespace BenchCompare

theorem append_isPrefix {α : Type} {as bs cs : List α} (ha : as <+: cs)
    (hb : bs <+: cs.drop as.length) : as ++ bs <+: cs := by
  obtain ⟨rest, rfl⟩ := ha
  rw [List.drop_left] at hb
  exact (List.prefix_append_right_inj as).mpr hb

namespace Json

/-! ### What a lexeme takes -/

/-- A numeral is what its text starts with. -/
theorem takeNumeral_isPrefix {cs numeral : List Char} (h : takeNumeral cs = some numeral) :
    numeral <+: cs := by
  unfold takeNumeral at h
  split at h
  next sign cs' heq =>
  have hsign : sign ++ cs' = cs := by
    split at heq <;> cases heq <;> rfl
  extract_lets whole cs₁ places cs₂ exponent at h
  have hwhole : whole <+: cs' := by
    subst whole
    split
    · exact ⟨_, rfl⟩
    · exact List.takeWhile_prefix _
  have hcs₁ : cs₁ = cs'.drop whole.length := rfl
  clear_value cs₁
  have hplaces : places <+: cs₁ := by
    subst places
    split
    · dsimp only
      split
      · exact List.nil_prefix
      · exact (List.prefix_cons_inj _).mpr (List.takeWhile_prefix _)
    · exact List.nil_prefix
  have hcs₂ : cs₂ = cs₁.drop places.length := rfl
  clear_value cs₂
  have hexponent : exponent <+: cs₂ := by
    subst exponent
    split
    next letter rest =>
      split
      · split
        next mark rest' heq' =>
        have hmark : mark ++ rest' = rest := by
          split at heq' <;> cases heq' <;> rfl
        dsimp only
        split
        · exact List.nil_prefix
        · rw [← hmark, List.cons_append, List.prefix_cons_inj, List.prefix_append_right_inj]
          exact List.takeWhile_prefix _
      · exact List.nil_prefix
    · exact List.nil_prefix
  split at h
  · cases h
  · cases h
    rw [hcs₂] at hexponent
    have hrest := append_isPrefix hplaces hexponent
    rw [hcs₁] at hrest
    rw [← hsign, List.append_assoc, List.append_assoc, List.prefix_append_right_inj]
    exact append_isPrefix hwhole hrest

theorem map_eq_ok {ε α β : Type} {x : Except ε α} {f : α → β} {b : β} (h : x.map f = .ok b) :
    ∃ a, x = .ok a ∧ f a = b := by
  cases x with
  | ok a => exact ⟨a, rfl, Except.ok.inj h⟩
  | error e => cases h

/-- What is left behind a string is an end of the text. -/
theorem readString_suffix {start index : Nat} {cs : List Char} {s : StringRest}
    (h : readString start index cs = .ok s) : s.rest <:+ cs := by
  fun_induction readString start index cs generalizing s with
  | case2 index rest =>
    cases h
    exact List.suffix_cons _ _
  | case5 index a b c d e rest n _ c' more _ ih =>
    obtain ⟨s', hs', rfl⟩ := map_eq_ok h
    have hdrop : s'.rest <:+ e :: rest := (ih hs').trans (List.drop_suffix _ _)
    exact hdrop.trans ⟨['\\', 'u', a, b, c, d], rfl⟩
  | case8 index c rest _ _ c' _ ih =>
    obtain ⟨s', hs', rfl⟩ := map_eq_ok h
    exact (ih hs').trans ⟨['\\', c], rfl⟩
  | case11 index c rest _ _ _ _ _ _ ih =>
    obtain ⟨s', hs', rfl⟩ := map_eq_ok h
    exact (ih hs').trans (List.suffix_cons _ _)
  | _ => cases h

/-- What is left behind a lexeme is an end of the text. -/
theorem takeLexeme_suffix {index next : Nat} {c : Char} {rest cs : List Char} {l : Lexeme}
    (h : takeLexeme index c rest = (l, some (next, cs))) : cs <:+ c :: rest := by
  unfold takeLexeme at h
  dsimp only at h
  split at h
  case h_7 =>
    split at h
    · next hs =>
      cases h
      exact (readString_suffix hs).trans (List.suffix_cons _ _)
    · cases h
  case h_8 =>
    split at h
    · cases h
      exact List.drop_suffix _ _
    · split at h
      · cases h
        exact List.drop_suffix _ _
      · cases h
  all_goals
    cases h
    exact List.suffix_cons _ _

/-! ### The lexemes of a text -/

/-- Every lexeme but the end of the text is taken from the start of an end of the text. -/
theorem mem_lexemesFrom {fuel index i : Nat} {cs : List Char} {l : Lexeme}
    (h : (l, i) ∈ lexemesFrom fuel index cs) :
    l = .endOfText ∨ ∃ c rest behind, c :: rest <:+ cs ∧ takeLexeme i c rest = (l, behind) := by
  induction fuel generalizing index cs with
  | zero => cases h
  | succ fuel ih =>
    simp only [lexemesFrom] at h
    have hspaces := List.drop_suffix (cs.takeWhile isSpace).length cs
    split at h
    · cases List.mem_singleton.mp h
      exact .inl rfl
    · next c rest hcs =>
      rw [hcs] at hspaces
      split at h
      · next hlexeme =>
        rcases List.mem_cons.mp h with heq | hmem
        · cases heq
          exact .inr ⟨c, rest, _, hspaces, hlexeme⟩
        · have hsuffix := (takeLexeme_suffix hlexeme).trans hspaces
          rcases ih hmem with hend | ⟨c', rest', behind, hcs', hlexeme'⟩
          · exact .inl hend
          · exact .inr ⟨c', rest', behind, hcs'.trans hsuffix, hlexeme'⟩
      · next hlexeme =>
        cases List.mem_singleton.mp h
        exact .inr ⟨c, rest, _, hspaces, hlexeme⟩

end Json

end BenchCompare
