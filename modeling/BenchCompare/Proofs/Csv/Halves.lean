import BenchCompare.Proofs.Csv.Sequences
import BenchCompare.Text.Encode

/-! # Halves in an export

  An export can be written to a file if it is a string.  Quoting adds no halves, and
  all cells but the labels of a key and the comments are strings themselves.  So
  a half in a label or in a comment is all that can keep an export from a file.

  Main statement: `half_mem_exported_iff`.
-/

namespace BenchCompare

namespace Csv

variable {n : Fin 0x800} {field : List CodePoint} {record : Record} {records : List Record}

theorem half_mem_writeField_iff : .half n ∈ writeField field ↔ .half n ∈ field := by
  unfold writeField
  split
  · simp [quote, mem_escape_iff]
  · rfl

/-- What stands in a sequence of parts stands in one of them, or between two. -/
theorem mem_of_mem_intercalate {sep : List CodePoint} {parts : List (List CodePoint)} {c : CodePoint}
    (h : c ∈ sep.intercalate parts) : c ∈ sep ∨ ∃ part ∈ parts, c ∈ part := by
  induction parts with
  | nil => cases h
  | cons part parts ih =>
    cases parts with
    | nil => exact .inr ⟨part, List.mem_cons_self, by simpa using h⟩
    | cons next parts =>
      rw [List.intercalate_cons_cons, List.mem_append, List.mem_append] at h
      rcases h with (h | h) | h
      · exact .inr ⟨part, List.mem_cons_self, h⟩
      · exact .inl h
      · obtain hsep | ⟨part', hmem, hc⟩ := ih h
        · exact .inl hsep
        · exact .inr ⟨part', List.mem_cons_of_mem _ hmem, hc⟩

theorem half_mem_writeRecord_iff :
    .half n ∈ writeRecord record ↔ ∃ field ∈ record, .half n ∈ field := by
  constructor
  · intro h
    unfold writeRecord at h
    rcases List.mem_append.mp h with h | h
    · split at h
      · simp [quote, escape] at h
      · -- There are only commas between the fields.
        obtain hcomma | ⟨part, hpart, hn⟩ := mem_of_mem_intercalate h
        · simp at hcomma
        · obtain ⟨field, hfield, rfl⟩ := List.mem_map.mp hpart
          exact ⟨field, hfield, half_mem_writeField_iff.mp hn⟩
    · simp [recordEnd] at h
  · rintro ⟨field, hfield, hn⟩
    exact (infix_writeRecord hfield (List.ne_nil_of_mem hn)).subset (half_mem_writeField_iff.mpr hn)

theorem half_mem_write_iff :
    .half n ∈ write records ↔ ∃ record ∈ records, ∃ field ∈ record, .half n ∈ field := by
  unfold write
  simp only [List.mem_flatMap, half_mem_writeRecord_iff]

end Csv

/-- A half stands in a label of a key or in the comments on it. -/
def HasHalf (n : Fin 0x800) (k : MetricKey) (b : Bucket) : Prop :=
  (∃ label ∈ k.fields, .half n ∈ label.toList) ∨ .half n ∈ b.comments.toList

variable {n : Fin 0x800}

theorem half_mem_exportRow_iff {k : MetricKey} {b : Bucket} :
    (∃ cell ∈ exportRow k b, .half n ∈ cell.toList) ↔ HasHalf n k b := by
  -- Counts, summaries and verdicts are strings.
  have hside : ∀ side, ∀ cell ∈ sideFields b side, .half n ∉ cell.toList := by
    intro side cell hcell
    simp only [sideFields, List.mem_cons, List.not_mem_nil, or_false] at hcell
    rcases hcell with rfl | rfl | rfl | rfl <;> simp
  have htruth : .half n ∉ (truthText b.matched).toList := by
    unfold truthText
    split <;> simp
  unfold exportRow HasHalf
  simp only [List.mem_append, List.mem_cons, List.not_mem_nil, or_false]
  constructor
  · rintro ⟨cell, ((hcell | hcell) | hcell) | rfl | rfl, hn⟩
    · exact .inl ⟨cell, hcell, hn⟩
    · exact absurd hn (hside .left cell hcell)
    · exact absurd hn (hside .right cell hcell)
    · exact absurd hn htruth
    · exact .inr hn
  · rintro (⟨label, hlabel, hn⟩ | hn)
    · exact ⟨label, .inl (.inl (.inl hlabel)), hn⟩
    · exact ⟨b.comments, .inr (.inr rfl), hn⟩

/-- **The halves of an export are those of the labels and the comments.** -/
theorem Table.half_mem_exported_iff {t : Table} :
    .half n ∈ t.exported.toList ↔ ∃ k b, (k, b) ∈ t.entries ∧ HasHalf n k b := by
  have hnames : ∀ name ∈ exportColumns, .half n ∉ name.toList := by simp [exportColumns]
  unfold Table.exported
  rw [Csv.half_mem_write_iff]
  constructor
  · rintro ⟨_, hrecord, _, hfield, hn⟩
    obtain ⟨row, hrow, rfl⟩ := List.mem_map.mp hrecord
    obtain ⟨cell, hcell, rfl⟩ := List.mem_map.mp hfield
    rcases List.mem_cons.mp hrow with rfl | hrow
    · exact absurd hn (hnames cell hcell)
    · obtain ⟨⟨k, b⟩, hentry, rfl⟩ := List.mem_map.mp hrow
      exact ⟨k, b, t.sorted_perm.mem_iff.mp hentry, half_mem_exportRow_iff.mp ⟨cell, hcell, hn⟩⟩
  · rintro ⟨k, b, hentry, hhalf⟩
    obtain ⟨cell, hcell, hn⟩ := half_mem_exportRow_iff.mpr hhalf
    have hrow : exportRow k b ∈ t.exportRows :=
      List.mem_cons_of_mem _ (List.mem_map_of_mem (t.sorted_perm.mem_iff.mpr hentry))
    exact ⟨_, List.mem_map_of_mem hrow, _, List.mem_map_of_mem hcell, hn⟩

end BenchCompare
