import BenchCompare.Json.Document
import BenchCompare.Proofs.Json.Lexeme

/-! # Names in a JSON document

  A text may name a field of an object twice; a document does not, since the
  later field takes the place of the earlier one.  The invariant of the reader is
  that all it holds is so: the containers that are still open, and the value that
  was read last (`isDistinct_step`).

  Main statement: `isDistinct_parse`.
-/

namespace BenchCompare

theorem mem_insertField {α : Type} {name : Text} {v : α} {e : Text × α}
    {es : List (Text × α)} (h : e ∈ insertField name v es) : e = (name, v) ∨ e ∈ es := by
  induction es with
  | nil => exact .inl (List.mem_singleton.mp h)
  | cons e' es ih =>
    obtain ⟨name', v'⟩ := e'
    unfold insertField at h
    split at h
    · next heq =>
      obtain rfl : name' = name := eq_of_beq heq
      rcases List.mem_cons.mp h with rfl | hmem
      · exact .inl rfl
      · exact .inr (List.mem_cons_of_mem _ hmem)
    · rcases List.mem_cons.mp h with rfl | hmem
      · exact .inr List.mem_cons_self
      · exact (ih hmem).imp_right (List.mem_cons_of_mem _)

theorem nodup_insertField {α : Type} {es : List (Text × α)} (h : (es.map Prod.fst).Nodup)
    (name : Text) (v : α) : ((insertField name v es).map Prod.fst).Nodup := by
  induction es with
  | nil => exact List.nodup_cons.mpr ⟨List.not_mem_nil, List.nodup_nil⟩
  | cons e es ih =>
    obtain ⟨name', v'⟩ := e
    rw [List.map_cons, List.nodup_cons] at h
    obtain ⟨hnew, hes⟩ := h
    unfold insertField
    split
    · exact List.nodup_cons.mpr ⟨hnew, hes⟩
    · next hne =>
      rw [List.map_cons, List.nodup_cons]
      refine ⟨?_, ih hes⟩
      intro hmem
      obtain ⟨e, he, hname⟩ := List.mem_map.mp hmem
      rcases mem_insertField he with rfl | he
      · exact hne (beq_iff_eq.mpr hname.symm)
      · exact hnew (List.mem_map.mpr ⟨e, he, hname⟩)

namespace Json

/-- No object in a value names a field twice. -/
inductive IsDistinct : Json → Prop
  | null : IsDistinct .null
  | bool (b : Bool) : IsDistinct (.bool b)
  | int (n : Int) : IsDistinct (.int n)
  | float (x : Float) : IsDistinct (.float x)
  | str (s : Text) : IsDistinct (.str s)
  | arr {items : List Json} (each : ∀ j ∈ items, IsDistinct j) : IsDistinct (.arr items)
  | obj {fields : List (Text × Json)} (names : (fields.map Prod.fst).Nodup)
      (each : ∀ e ∈ fields, IsDistinct e.2) : IsDistinct (.obj fields)

/-- Fields of a value in which no object names a field twice. -/
structure AreDistinct (fields : List (Text × Json)) : Prop where
  names : (fields.map Prod.fst).Nodup
  each : ∀ e ∈ fields, e.2.IsDistinct

theorem AreDistinct.nil : AreDistinct [] := ⟨List.nodup_nil, List.forall_mem_nil _⟩

theorem AreDistinct.insertField {fields : List (Text × Json)} (h : AreDistinct fields)
    (name : Text) {v : Json} (hv : v.IsDistinct) : AreDistinct (insertField name v fields) := by
  refine ⟨nodup_insertField h.names name v, ?_⟩
  intro e he
  rcases mem_insertField he with rfl | he
  · exact hv
  · exact h.each e he

/-! ### What the reader holds -/

/-- What was read into a container that is still open. -/
def Frame.IsDistinct : Frame → Prop
  | .array items => ∀ j ∈ items, j.IsDistinct
  | .object fields _ => AreDistinct fields

/-- What was read last. -/
def Awaited.IsDistinct : Awaited → Prop
  | .afterValue v => v.IsDistinct
  | .name fields => AreDistinct fields
  | _ => True

/-- All that the reader holds is free of double names. -/
def IsDistinctState (state : List Frame × Awaited) : Prop :=
  (∀ frame ∈ state.1, frame.IsDistinct) ∧ state.2.IsDistinct

/-- The values that lexemes stand for are no containers. -/
def Lexeme.IsPlain : Lexeme → Prop
  | .scalar v => v.IsDistinct
  | _ => True

theorem isPlain_numeralLexeme (numeral : List Char) : (numeralLexeme numeral).IsPlain := by
  unfold numeralLexeme
  split
  · exact .int _
  · trivial
  · split
    · exact .float _
    · trivial

theorem isDistinct_takeWord? {cs : List Char} {n : Nat} {v : Json} (h : takeWord? cs = some (n, v)) :
    v.IsDistinct := by
  have hwords : ∀ e ∈ words, e.2.IsDistinct := by
    unfold words
    simp only [List.forall_mem_cons]
    exact ⟨.null, .bool _, .bool _, .float _, .float _, .float _, List.forall_mem_nil _⟩
  unfold takeWord? at h
  obtain ⟨e, he, heq⟩ := Option.map_eq_some_iff.mp h
  cases heq
  exact hwords e (List.mem_of_find?_eq_some he)

theorem isPlain_takeLexeme {index : Nat} {c : Char} {rest : List Char} {l : Lexeme}
    {behind : Option (Nat × List Char)} (h : takeLexeme index c rest = (l, behind)) : l.IsPlain := by
  unfold takeLexeme at h
  dsimp only at h
  split at h
  case h_7 => split at h <;> cases h <;> trivial
  case h_8 =>
    split at h
    · next hword =>
      cases h
      exact isDistinct_takeWord? hword
    · split at h
      · cases h
        exact isPlain_numeralLexeme _
      · cases h
        trivial
  all_goals
    cases h
    trivial

/-! ### The reader -/

variable {depth : Nat} {l : Lexeme} {index : Nat} {stack : List Frame} {state state' : List Frame × Awaited}

theorem isDistinct_startValue (hl : l.IsPlain) (hstack : ∀ frame ∈ stack, frame.IsDistinct)
    (h : startValue depth l index stack = .ok state') : IsDistinctState state' := by
  unfold startValue openContainer at h
  cases l with
  | openArray =>
    dsimp only at h
    split at h
    · cases h
      exact ⟨List.forall_mem_cons.mpr ⟨List.forall_mem_nil _, hstack⟩, trivial⟩
    · cases h
  | openObject =>
    dsimp only at h
    split at h
    · cases h
      exact ⟨List.forall_mem_cons.mpr ⟨.nil, hstack⟩, trivial⟩
    · cases h
  | string s =>
    cases h
    exact ⟨hstack, .str s⟩
  | scalar v =>
    cases h
    exact ⟨hstack, hl⟩
  | _ => cases h

theorem isDistinct_startField {fields : List (Text × Json)} (hfields : AreDistinct fields)
    (hstack : ∀ frame ∈ stack, frame.IsDistinct) (h : startField l index fields stack = .ok state') :
    IsDistinctState state' := by
  cases l with
  | string s =>
    cases h
    exact ⟨List.forall_mem_cons.mpr ⟨hfields, hstack⟩, trivial⟩
  | _ => cases h

/-- One step of the reader puts no field beside another one of its name. -/
theorem isDistinct_step (hl : l.IsPlain) (hstate : IsDistinctState state)
    (h : step depth l index state = .ok state') : IsDistinctState state' := by
  obtain ⟨hstack, hawaited⟩ := hstate
  unfold step at h
  split at h
  case h_1 => exact isDistinct_startValue hl hstack h
  case h_2 items stack =>
    obtain ⟨hitems, hrest⟩ := List.forall_mem_cons.mp hstack
    split at h
    · cases h
      exact ⟨hrest, .arr fun j hj => hitems j (List.mem_reverse.mp hj)⟩
    · exact isDistinct_startValue hl hstack h
  case h_3 fields name stack =>
    obtain ⟨hfields, hrest⟩ := List.forall_mem_cons.mp hstack
    split at h
    · cases h
      exact ⟨hrest, .obj hfields.names hfields.each⟩
    · exact isDistinct_startField hfields hrest h
  case h_4 => exact isDistinct_startField hawaited hstack h
  case h_5 =>
    split at h
    · cases h
      exact ⟨hstack, trivial⟩
    · cases h
  case h_6 items stack v =>
    obtain ⟨hitems, hrest⟩ := List.forall_mem_cons.mp hstack
    have hmore : ∀ j ∈ v :: items, j.IsDistinct := List.forall_mem_cons.mpr ⟨hawaited, hitems⟩
    split at h
    · cases h
      exact ⟨hrest, .arr fun j hj => hmore j (List.mem_reverse.mp hj)⟩
    · cases h
      exact ⟨List.forall_mem_cons.mpr ⟨hmore, hrest⟩, trivial⟩
    · cases h
  case h_7 fields name stack v =>
    obtain ⟨hfields, hrest⟩ := List.forall_mem_cons.mp hstack
    have hmore : AreDistinct (BenchCompare.insertField name v fields) :=
      AreDistinct.insertField hfields name hawaited
    split at h
    · cases h
      exact ⟨hrest, .obj hmore.names hmore.each⟩
    · cases h
      exact ⟨hrest, hmore⟩
    · cases h
  case h_8 => cases h

/-- So does a whole run of the reader. -/
theorem isDistinct_readFrom {ls : List (Lexeme × Nat)} (hls : ∀ e ∈ ls, e.1.IsPlain)
    (hstate : IsDistinctState state) {j : Json} (h : readFrom depth state ls = .ok j) : j.IsDistinct := by
  induction ls generalizing state with
  | nil =>
    rw [readFrom.eq_def] at h
    split at h
    · next heq => cases heq
    · next heq => cases heq
    · cases h
  | cons e ls ih =>
    obtain ⟨l, index⟩ := e
    obtain ⟨hl, hls⟩ := List.forall_mem_cons.mp hls
    rw [readFrom.eq_def] at h
    split at h
    · split at h
      · cases h
        exact hstate.2
      · cases h
    · next heq =>
      cases heq
      split at h
      · next hstep => exact ih hls (isDistinct_step hl hstate hstep) h
      · cases h
    · next heq => cases heq

/-- No object in a document that was read names a field twice. -/
theorem isDistinct_parse {cs : List Char} {j : Json} (h : parse depth cs = .ok j) : j.IsDistinct := by
  unfold parse at h
  split at h
  · cases h
  · have hstart : IsDistinctState ([], .value) := ⟨List.forall_mem_nil _, trivial⟩
    refine isDistinct_readFrom ?_ hstart h
    rintro ⟨l, i⟩ hmem
    rcases mem_lexemesFrom hmem with rfl | ⟨c, rest, behind, -, hlexeme⟩
    · trivial
    · exact isPlain_takeLexeme hlexeme

end Json

end BenchCompare
