import BenchCompare.Text.Encode
import BenchCompare.Text.Terminal
import Mathlib.Data.List.TakeWhile

/-! # What is printed without control sequences

  A text loses its control sequences when it is not printed on a terminal.  So it
  is printed as it is if and only if it has none.

  * `IsSequence`: the characters are one control sequence.
  * `HasSequence`: there is a control sequence somewhere in the characters.

  Main statements: `unadorned_eq_self_iff`, and for a text that is printed in front
  of another one `unadorned_append_of_plain`.
-/

namespace BenchCompare.Text

/-- An escape character and a bracket, parameters, intermediate characters, and a final character. -/
inductive IsSequence : List CodePoint → Prop
  | intro {parameters intermediates : List CodePoint} {last : CodePoint}
      (parameter : ∀ c ∈ parameters, isParameter c = true)
      (intermediate : ∀ c ∈ intermediates, isIntermediate c = true) (final : isFinal last = true) :
      IsSequence (escapeChar :: '[' :: (parameters ++ (intermediates ++ [last])))

/-- Somewhere in the characters are some that have a property. -/
def Contains (P : List CodePoint → Prop) (cs : List CodePoint) : Prop := ∃ s, P s ∧ s <:+: cs

/-- There is a control sequence somewhere. -/
abbrev HasSequence : List CodePoint → Prop := Contains IsSequence

/-- What does not go over the end of a line is in the line. -/
theorem contains_append_newline {P : List CodePoint → Prop} (h : ∀ s, P s → .char '\n' ∉ s)
    (cs : List CodePoint) : Contains P (cs ++ [.char '\n']) ↔ Contains P cs := by
  constructor
  · rintro ⟨s, hs, hpart⟩
    refine ⟨s, hs, ?_⟩
    rcases List.infix_concat_iff.mp hpart with hend | hpart
    · rcases List.suffix_concat_iff.mp hend with rfl | ⟨before, rfl, -⟩
      · exact List.nil_infix
      · exact absurd (List.mem_append_right _ (List.mem_singleton_self _)) (h _ hs)
    · exact hpart
  · rintro ⟨s, hs, hpart⟩
    exact ⟨s, hs, hpart.trans (List.prefix_append _ _).isInfix⟩

/-! ### One sequence -/

theorem not_isParameter_of_isIntermediate {c : CodePoint} (h : isIntermediate c = true) :
    ¬ isParameter c = true := by
  obtain ⟨c, rfl, hc⟩ := CodePoint.fits_eq_true_iff.mp h
  simp only [isParameter, CodePoint.fits_char, Bool.and_eq_true, decide_eq_true_eq, Char.le_def,
    UInt32.le_iff_toNat_le] at hc ⊢
  have hslash : '/'.val.toNat = 47 := rfl
  have hzero : '0'.val.toNat = 48 := rfl
  omega

theorem not_isParameter_of_isFinal {c : CodePoint} (h : isFinal c = true) : ¬ isParameter c = true := by
  obtain ⟨c, rfl, hc⟩ := CodePoint.fits_eq_true_iff.mp h
  simp only [isParameter, CodePoint.fits_char, Bool.and_eq_true, decide_eq_true_eq, Char.le_def,
    UInt32.le_iff_toNat_le] at hc ⊢
  have hat : '@'.val.toNat = 64 := rfl
  have hquestion : '?'.val.toNat = 63 := rfl
  omega

theorem not_isIntermediate_of_isFinal {c : CodePoint} (h : isFinal c = true) :
    ¬ isIntermediate c = true := by
  obtain ⟨c, rfl, hc⟩ := CodePoint.fits_eq_true_iff.mp h
  simp only [isIntermediate, CodePoint.fits_char, Bool.and_eq_true, decide_eq_true_eq, Char.le_def,
    UInt32.le_iff_toNat_le] at hc ⊢
  have hat : '@'.val.toNat = 64 := rfl
  have hslash : '/'.val.toNat = 47 := rfl
  omega

theorem afterSequence?_start (rest : List CodePoint) : afterSequence? (escapeChar :: '[' :: rest) =
    match (rest.dropWhile isParameter).dropWhile isIntermediate with
    | last :: after => if isFinal last then some after else none
    | [] => none := by
  show (if escapeChar = escapeChar then _ else none) = _
  exact if_pos rfl

/-- What is left of a text stands behind a sequence. -/
theorem exists_sequence {cs after : List CodePoint} (h : afterSequence? cs = some after) :
    ∃ s, IsSequence s ∧ cs = s ++ after := by
  unfold afterSequence? at h
  split at h
  · next c rest =>
    split at h
    · next hescape =>
      subst hescape
      split at h
      · next last after' hrest =>
        split at h
        · next hfinal =>
          cases h
          have hparameters : ∀ c ∈ rest.takeWhile isParameter, isParameter c = true :=
            fun c => List.mem_takeWhile_imp
          have hintermediates : ∀ c ∈ (rest.dropWhile isParameter).takeWhile isIntermediate,
              isIntermediate c = true := fun c => List.mem_takeWhile_imp
          have htext : rest = rest.takeWhile isParameter ++
              ((rest.dropWhile isParameter).takeWhile isIntermediate ++ last :: after) := by
            rw [← hrest, List.takeWhile_append_dropWhile, List.takeWhile_append_dropWhile]
          exact ⟨_, .intro hparameters hintermediates hfinal, by simpa using htext⟩
        · cases h
      · cases h
    · cases h
  · cases h

/-- A sequence is read to its end: the parameters stop at the first character that is none, and the
intermediate characters do so, too. -/
theorem afterSequence?_append {s : List CodePoint} (h : IsSequence s) (after : List CodePoint) :
    afterSequence? (s ++ after) = some after := by
  obtain ⟨parameter, intermediate, final⟩ := h
  rename_i parameters intermediates last
  have hparameters : (parameters ++ (intermediates ++ last :: after)).dropWhile isParameter =
      intermediates ++ last :: after := by
    rw [List.dropWhile_append_of_pos parameter]
    cases intermediates with
    | nil => exact List.dropWhile_cons_of_neg (not_isParameter_of_isFinal final)
    | cons c intermediates =>
      exact List.dropWhile_cons_of_neg
        (not_isParameter_of_isIntermediate (intermediate c List.mem_cons_self))
  have hintermediates : (intermediates ++ last :: after).dropWhile isIntermediate = last :: after := by
    rw [List.dropWhile_append_of_pos intermediate]
    exact List.dropWhile_cons_of_neg (not_isIntermediate_of_isFinal final)
  have htext : escapeChar :: '[' :: (parameters ++ (intermediates ++ [last])) ++ after =
      escapeChar :: '[' :: (parameters ++ (intermediates ++ last :: after)) := by simp
  rw [htext, afterSequence?_start, hparameters, hintermediates]
  exact if_pos final

/-- A text that starts with a sequence goes on behind it. -/
theorem afterSequence?_eq_some_iff {cs after : List CodePoint} :
    afterSequence? cs = some after ↔ ∃ s, IsSequence s ∧ cs = s ++ after := by
  constructor
  · exact exists_sequence
  · rintro ⟨s, hs, rfl⟩
    exact afterSequence?_append hs after

theorem afterSequence?_cons_of_ne {c : CodePoint} (h : c ≠ escapeChar) (cs : List CodePoint) :
    afterSequence? (c :: cs) = none := by
  rw [Option.eq_none_iff_forall_ne_some]
  intro after hafter
  obtain ⟨s, hs, htext⟩ := afterSequence?_eq_some_iff.mp hafter
  cases hs
  cases htext
  exact h rfl

/-- The character that ends a line is not part of a sequence. -/
theorem newline_notMem_of_isSequence {s : List CodePoint} (h : IsSequence s) : .char '\n' ∉ s := by
  obtain ⟨parameter, intermediate, final⟩ := h
  rename_i parameters intermediates last
  have hparameters : .char '\n' ∉ parameters := fun h => absurd (parameter _ h) (by decide)
  have hintermediates : .char '\n' ∉ intermediates := fun h => absurd (intermediate _ h) (by decide)
  have hlast : .char '\n' ≠ last := by
    rintro rfl
    exact absurd final (by decide)
  have hstart : .char '\n' ∉ [escapeChar, '['] := by decide
  simp only [List.mem_cons, List.mem_append, List.not_mem_nil, or_false, not_or] at hstart ⊢
  exact ⟨hstart.1, hstart.2, hparameters, hintermediates, hlast⟩

/-! ### All sequences -/

/-- A text is read from its start: a sequence at once, and other characters one by one. -/
@[elab_as_elim]
theorem sequence_induction {motive : List CodePoint → Prop} (nil : motive [])
    (sequence : ∀ cs after, afterSequence? cs = some after → motive after → motive cs)
    (plain : ∀ c cs, afterSequence? (c :: cs) = none → motive cs → motive (c :: cs)) (cs : List CodePoint) :
    motive cs := by
  fun_induction withoutSequencesFrom [] cs with
  | case1 _ cs after h ih => exact sequence cs after h ih
  | case2 => exact nil
  | case3 _ c cs h ih => exact plain c cs h ih

theorem withoutSequencesFrom_of_sequence {cs after : List CodePoint} (h : afterSequence? cs = some after)
    (before : List CodePoint) : withoutSequencesFrom before cs = withoutSequencesFrom before after := by
  rw [withoutSequencesFrom]
  split
  · next after' h' =>
    rw [h] at h'
    cases h'
    rfl
  · next h' =>
    rw [h] at h'
    cases h'

theorem withoutSequencesFrom_nil (before : List CodePoint) : withoutSequencesFrom before [] = before.reverse := by
  rw [withoutSequencesFrom]
  split
  · next h => cases h
  · rfl

theorem withoutSequencesFrom_cons {c : CodePoint} {cs : List CodePoint} (h : afterSequence? (c :: cs) = none)
    (before : List CodePoint) :
    withoutSequencesFrom before (c :: cs) = withoutSequencesFrom (c :: before) cs := by
  rw [withoutSequencesFrom]
  split
  · next h' =>
    rw [h] at h'
    cases h'
  · rfl

theorem withoutSequencesFrom_eq (before cs : List CodePoint) :
    withoutSequencesFrom before cs = before.reverse ++ withoutSequences cs := by
  unfold withoutSequences
  induction cs using sequence_induction generalizing before with
  | nil => rw [withoutSequencesFrom_nil, withoutSequencesFrom_nil, List.reverse_nil, List.append_nil]
  | sequence cs after h ih =>
    rw [withoutSequencesFrom_of_sequence h, withoutSequencesFrom_of_sequence h, ih]
  | plain c cs h ih =>
    rw [withoutSequencesFrom_cons h, withoutSequencesFrom_cons h, ih, ih [c], List.reverse_cons,
      List.append_assoc, List.reverse_singleton]

/-- A sequence is left out. -/
theorem withoutSequences_of_sequence {cs after : List CodePoint} (h : afterSequence? cs = some after) :
    withoutSequences cs = withoutSequences after := withoutSequencesFrom_of_sequence h []

theorem withoutSequences_nil : withoutSequences [] = [] := withoutSequencesFrom_nil []

/-- What is not part of a sequence stays. -/
theorem withoutSequences_cons {c : CodePoint} {cs : List CodePoint} (h : afterSequence? (c :: cs) = none) :
    withoutSequences (c :: cs) = c :: withoutSequences cs := by
  unfold withoutSequences
  rw [withoutSequencesFrom_cons h, withoutSequencesFrom_eq]
  rfl

theorem withoutSequences_sublist (cs : List CodePoint) : (withoutSequences cs).Sublist cs := by
  induction cs using sequence_induction with
  | nil => simp [withoutSequences_nil]
  | sequence cs after h ih =>
    obtain ⟨s, -, hs⟩ := afterSequence?_eq_some_iff.mp h
    rw [withoutSequences_of_sequence h, hs]
    exact ih.trans (List.sublist_append_right s after)
  | plain c cs h ih =>
    rw [withoutSequences_cons h]
    exact ih.cons_cons c

theorem hasSequence_cons {c : CodePoint} {cs : List CodePoint} (h : afterSequence? (c :: cs) = none) :
    HasSequence (c :: cs) ↔ HasSequence cs := by
  constructor
  · rintro ⟨s, hs, hpart⟩
    rcases List.infix_cons_iff.mp hpart with ⟨after, htext⟩ | hpart
    · have hsome := afterSequence?_eq_some_iff.mpr ⟨s, hs, htext.symm⟩
      rw [h] at hsome
      cases hsome
    · exact ⟨s, hs, hpart⟩
  · rintro ⟨s, hs, hpart⟩
    exact ⟨s, hs, List.infix_cons hpart⟩

theorem hasSequence_of_sequence {cs after : List CodePoint} (h : afterSequence? cs = some after) :
    HasSequence cs := by
  obtain ⟨s, hs, rfl⟩ := afterSequence?_eq_some_iff.mp h
  exact ⟨s, hs, [], after, rfl⟩

/-- A text has the sequences of its parts. -/
theorem Contains.mono {P : List CodePoint → Prop} {cs cs' : List CodePoint} (h : Contains P cs) (hcs : cs <:+: cs') :
    Contains P cs' := by
  obtain ⟨s, hs, hpart⟩ := h
  exact ⟨s, hs, hpart.trans hcs⟩

/-- Without an escape character there is no sequence. -/
theorem not_hasSequence_of_plain {cs : List CodePoint} (h : escapeChar ∉ cs) : ¬ HasSequence cs := by
  rintro ⟨s, ⟨-, -, -⟩, hpart⟩
  exact h (hpart.subset List.mem_cons_self)

theorem not_hasSequence_nil : ¬ HasSequence [] := not_hasSequence_of_plain List.not_mem_nil

/-- The text stays as it is if and only if there is no sequence in it. -/
theorem withoutSequences_eq_self_iff (cs : List CodePoint) :
    withoutSequences cs = cs ↔ ¬ HasSequence cs := by
  induction cs using sequence_induction with
  | nil => exact iff_of_true withoutSequences_nil not_hasSequence_nil
  | sequence cs after h ih =>
    refine iff_of_false ?_ (not_not_intro (hasSequence_of_sequence h))
    intro heq
    have hshorter := length_afterSequence? h
    have hle := (withoutSequences_sublist after).length_le
    rw [← withoutSequences_of_sequence h, heq] at hle
    omega
  | plain c cs h ih => rw [withoutSequences_cons h, hasSequence_cons h, ← ih, List.cons_inj_right]

theorem withoutSequences_append_of_plain {cs : List CodePoint} (h : escapeChar ∉ cs) (cs' : List CodePoint) :
    withoutSequences (cs ++ cs') = cs ++ withoutSequences cs' := by
  induction cs with
  | nil => rfl
  | cons c cs ih =>
    rw [List.mem_cons, not_or] at h
    rw [List.cons_append, withoutSequences_cons (afterSequence?_cons_of_ne (Ne.symm h.1) _), ih h.2]
    rfl

/-! ### Texts -/

/-- A text is printed as it is if and only if it has no control sequence. -/
theorem unadorned_eq_self_iff (text : Text) : unadorned text = text ↔ ¬ HasSequence text.toList := by
  rw [← withoutSequences_eq_self_iff]
  exact ⟨congrArg toList, fun h => toList_injective h⟩

/-- A text without escape characters is printed as it is, whatever follows. -/
theorem unadorned_append_of_plain {text : Text} (h : escapeChar ∉ text.toList) (text' : Text) :
    unadorned (text ++ text') = text ++ unadorned text' :=
  toList_injective (withoutSequences_append_of_plain h text'.toList)

/-- A string is printed as a string. -/
theorem exists_string_unadorned {text : Text} (h : ∃ s : String, text = s) :
    ∃ s : String, unadorned text = s := by
  rw [exists_string_iff] at h ⊢
  exact fun n hn => h n ((withoutSequences_sublist text.toList).mem hn)

end BenchCompare.Text
