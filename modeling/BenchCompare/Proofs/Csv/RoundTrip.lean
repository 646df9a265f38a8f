import BenchCompare.Csv.Reader

/-! # Reading back what was written

  The reader is followed through a written text field by field.  A field is
  written so that the reader ends up behind it with just its characters, at a
  place where a comma or the end of the record closes it; it makes no difference
  whether the field had to be quoted.

  Main statement: `read_write`.  Records that have fields are read back as they
  were written, whatever characters the fields hold.
-/

namespace BenchCompare.Csv

/-! ### Steps of the reader -/

/-- Nothing of a field has been read at this place. -/
def Place.IsStart (place : Place) : Prop := place = .recordStart ∨ place = .fieldStart

section

variable (field : List CodePoint) (fields : Record) (rest : List CodePoint)

theorem readFrom_quoted_quote :
    readFrom .quoted field fields ('"' :: rest) = readFrom .quoteSeen field fields rest := by
  rw [readFrom.eq_def]
  rfl

theorem readFrom_quoted_of_ne {c : CodePoint} (h : c ≠ '"') :
    readFrom .quoted field fields (c :: rest) = readFrom .quoted (c :: field) fields rest := by
  rw [readFrom.eq_def]
  exact if_neg h

theorem readFrom_quoteSeen_quote :
    readFrom .quoteSeen field fields ('"' :: rest) = readFrom .quoted ('"' :: field) fields rest := by
  rw [readFrom.eq_def]
  rfl

/-- A quote opens a field at its start. -/
theorem readFrom_quote {place : Place} (h : place.IsStart) :
    readFrom place field fields ('"' :: rest) = readFrom .quoted [] fields rest := by
  rw [readFrom.eq_def]
  rcases h with rfl | rfl <;> rfl

/-- A character that is not special is text of a field without quotes. -/
theorem readFrom_of_not_special {place : Place} (h : place.IsStart ∨ place = .plain) {c : CodePoint}
    (hc : isSpecial c = false) :
    readFrom place field fields (c :: rest) = readFrom .plain (c :: field) fields rest := by
  simp only [isSpecial, Bool.or_eq_false_iff, decide_eq_false_iff_not] at hc
  rw [readFrom.eq_def]
  rcases h with (rfl | rfl) | rfl <;> simp [hc]

/-- A comma ends a field everywhere but between quotes. -/
theorem readFrom_comma {place : Place} (h : place ≠ .quoted) :
    readFrom place field fields (',' :: rest) =
      readFrom .fieldStart [] (field.reverse :: fields) rest := by
  rw [readFrom.eq_def]
  cases place with
  | quoted => exact absurd rfl h
  | _ => rfl

/-- The end of a record ends a field there, too. -/
theorem readFrom_recordEnd {place : Place} (h : place ≠ .quoted) :
    readFrom place field fields (recordEnd ++ rest) =
      (read rest).map ((field.reverse :: fields).reverse :: ·) := by
  show readFrom place field fields ('\r' :: '\n' :: rest) = _
  rw [readFrom.eq_def]
  cases place with
  | quoted => exact absurd rfl h
  | _ => rfl

end

/-! ### Fields -/

/-- The characters of a quoted field are read one by one, doubled quotes as one. -/
theorem readFrom_escape (s field : List CodePoint) (fields : Record) (rest : List CodePoint) :
    readFrom .quoted field fields (escape s ++ rest) =
      readFrom .quoted (s.reverse ++ field) fields rest := by
  induction s generalizing field with
  | nil => rfl
  | cons c s ih =>
    rw [List.reverse_cons, List.append_assoc, List.singleton_append]
    by_cases hc : c = '"'
    · subst hc
      rw [escape, if_pos rfl, List.cons_append, List.cons_append, readFrom_quoted_quote,
        readFrom_quoteSeen_quote, ih]
    · rw [escape, if_neg hc, List.cons_append, readFrom_quoted_of_ne _ _ _ hc, ih]

theorem readFrom_plain (s field : List CodePoint) (fields : Record) (rest : List CodePoint)
    (h : ∀ c ∈ s, isSpecial c = false) :
    readFrom .plain field fields (s ++ rest) = readFrom .plain (s.reverse ++ field) fields rest := by
  induction s generalizing field with
  | nil => rfl
  | cons c s ih =>
    rw [List.forall_mem_cons] at h
    rw [List.cons_append, readFrom_of_not_special _ _ _ (.inr rfl) h.1, ih _ h.2, List.reverse_cons,
      List.append_assoc, List.singleton_append]

/-- Behind a written field the reader stands outside quotes and has read the characters of the field. -/
theorem readFrom_writeField {place : Place} (h : place.IsStart) (s : List CodePoint) (fields : Record) :
    ∃ place', place' ≠ .quoted ∧ ∀ rest,
      readFrom place [] fields (writeField s ++ rest) = readFrom place' s.reverse fields rest := by
  have hstart : place ≠ .quoted := by rcases h with rfl | rfl <;> nofun
  by_cases hs : s.any isSpecial = true
  · refine ⟨.quoteSeen, nofun, ?_⟩
    intro rest
    rw [writeField, if_pos hs, quote, List.append_assoc, List.cons_append, readFrom_quote _ _ _ h,
      readFrom_escape, List.append_nil, List.singleton_append, readFrom_quoted_quote]
  · rw [writeField, if_neg hs]
    have hplain : ∀ c ∈ s, isSpecial c = false := by simpa using hs
    cases s with
    | nil => exact ⟨place, hstart, fun rest => rfl⟩
    | cons c s =>
      rw [List.forall_mem_cons] at hplain
      refine ⟨.plain, nofun, ?_⟩
      intro rest
      rw [List.cons_append, readFrom_of_not_special _ _ _ (.inl h) hplain.1,
        readFrom_plain _ _ _ _ hplain.2, List.reverse_cons]

/-! ### Records -/

/-- The fields of a record are read one after the other. -/
theorem readFrom_intercalate {place : Place} (h : place.IsStart) (s : List CodePoint) (record : Record)
    (fields : Record) (rest : List CodePoint) :
    readFrom place [] fields
        ([.char ','].intercalate ((s :: record).map writeField) ++ (recordEnd ++ rest)) =
      (read rest).map ((fields.reverse ++ s :: record) :: ·) := by
  induction record generalizing place s fields with
  | nil =>
    obtain ⟨place', hplace', hread⟩ := readFrom_writeField h s fields
    rw [List.map_singleton, List.intercalate_singleton, hread, readFrom_recordEnd _ _ _ hplace',
      List.reverse_reverse, List.reverse_cons]
  | cons s' record ih =>
    obtain ⟨place', hplace', hread⟩ := readFrom_writeField h s fields
    rw [List.map_cons, List.intercalate_cons_of_ne_nil (by simp), List.append_assoc,
      List.append_assoc, hread, List.singleton_append, readFrom_comma _ _ _ hplace',
      List.reverse_reverse, ih (.inr rfl), List.reverse_cons, List.append_assoc,
      List.singleton_append]

theorem read_writeRecord {record : Record} (h : record ≠ []) (rest : List CodePoint) :
    read (writeRecord record ++ rest) = (read rest).map (record :: ·) := by
  unfold writeRecord
  rw [List.append_assoc]
  by_cases hempty : record = [[]]
  · -- A single empty field is quoted though it has no special characters.
    subst hempty
    rfl
  · rw [if_neg hempty]
    cases record with
    | nil => exact absurd rfl h
    | cons s record => exact readFrom_intercalate (.inl rfl) s record [] rest

/-- **Records are read back as they were written.** -/
theorem read_write {records : List Record} (h : ∀ record ∈ records, record ≠ []) :
    read (write records) = some records := by
  induction records with
  | nil => rfl
  | cons record records ih =>
    rw [List.forall_mem_cons] at h
    show read (writeRecord record ++ write records) = _
    rw [read_writeRecord h.1, ih h.2]
    rfl

end BenchCompare.Csv
