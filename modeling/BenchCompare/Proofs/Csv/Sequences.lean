import BenchCompare.Comparison.Report
import BenchCompare.Proofs.Comparison.Order
import BenchCompare.Proofs.Text.Terminal

/-! # Control sequences in an export

  Fields are written as they are, between quotes or not, and with their quotes
  doubled.  A control sequence in a field is one in the export then: a quote can only
  be an intermediate character of it, and there may be any number of these.

  Main statement: `hasSequence_exported`.  The converse is not true, since a sequence
  can go over the comma between two fields.
-/

namespace BenchCompare

open Text (IsSequence HasSequence)

namespace Csv

variable {cs cs' field : List CodePoint} {record : Record} {records : List Record}

theorem escape_append (cs cs' : List CodePoint) : escape (cs ++ cs') = escape cs ++ escape cs' := by
  induction cs with
  | nil => rfl
  | cons c cs ih =>
    rw [List.cons_append, escape, escape, ih]
    split <;> rfl

theorem mem_escape_iff {c : CodePoint} : c ∈ escape cs ↔ c ∈ cs := by
  induction cs with
  | nil => rfl
  | cons c' cs ih =>
    rw [escape]
    split
    · next hquote => simp [hquote, ih]
    · rw [List.mem_cons, List.mem_cons, ih]

/-- A sequence stays one if its quotes are doubled. -/
theorem isSequence_escape (h : IsSequence cs) : IsSequence (escape cs) := by
  obtain ⟨parameter, intermediate, final⟩ := h
  rename_i parameters intermediates last
  have hlast : escape [last] = [last] := by
    refine if_neg ?_
    rintro rfl
    exact absurd final (by decide)
  have hescape : escape (Text.escapeChar :: '[' :: (parameters ++ (intermediates ++ [last]))) =
      Text.escapeChar :: '[' :: (escape parameters ++ (escape intermediates ++ [last])) := by
    -- The two characters that a sequence starts with are no quotes.
    rw [← hlast, ← escape_append, ← escape_append, hlast]
    rfl
  rw [hescape]
  exact .intro (fun c hc => parameter c (mem_escape_iff.mp hc))
    (fun c hc => intermediate c (mem_escape_iff.mp hc)) final

theorem hasSequence_escape (h : HasSequence cs) : HasSequence (escape cs) := by
  obtain ⟨s, hs, before, after, rfl⟩ := h
  refine ⟨escape s, isSequence_escape hs, escape before, escape after, ?_⟩
  rw [escape_append, escape_append]

theorem hasSequence_writeField (h : HasSequence field) : HasSequence (writeField field) := by
  unfold writeField
  split
  · exact (hasSequence_escape h).mono ⟨['"'], ['"'], rfl⟩
  · exact h

/-- Each of the parts stands in the whole. -/
theorem infix_intercalate {sep part : List CodePoint} {parts : List (List CodePoint)} (h : part ∈ parts) :
    part <:+: sep.intercalate parts := by
  induction parts with
  | nil => cases h
  | cons first parts ih =>
    cases parts with
    | nil =>
      obtain rfl := List.mem_singleton.mp h
      simp [List.intercalate_singleton]
    | cons second parts =>
      rw [List.intercalate_cons_of_ne_nil (List.cons_ne_nil second parts), List.append_assoc]
      rcases List.mem_cons.mp h with rfl | h
      · exact (List.prefix_append _ _).isInfix
      · refine (ih h).trans ?_
        rw [← List.append_assoc]
        exact (List.suffix_append _ _).isInfix

theorem infix_writeRecord (h : field ∈ record) (hne : field ≠ []) :
    writeField field <:+: writeRecord record := by
  -- The record of one empty field is the only one that is not written field by field.
  have hrecord : record ≠ [[]] := by
    rintro rfl
    exact hne (List.mem_singleton.mp h)
  unfold writeRecord
  rw [if_neg hrecord]
  exact (infix_intercalate (List.mem_map_of_mem h)).trans (List.prefix_append _ _).isInfix

theorem hasSequence_write (hrecord : record ∈ records) (hfield : field ∈ record)
    (h : HasSequence field) : HasSequence (write records) := by
  have hne : field ≠ [] := by
    rintro rfl
    exact Text.not_hasSequence_nil h
  refine (hasSequence_writeField h).mono ((infix_writeRecord hfield hne).trans ?_)
  exact List.infix_of_mem_flatten (List.mem_map_of_mem hrecord)

end Csv

/-- A control sequence in a part of a key is in the export. -/
theorem Table.hasSequence_exported {t : Table} {k : MetricKey} {part : Text} (hk : k ∈ t.keys)
    (hpart : part ∈ k.fields) (h : HasSequence part.toList) : HasSequence t.exported.toList := by
  obtain ⟨⟨k', b⟩, hentry, rfl⟩ := List.mem_map.mp hk
  have hrow : exportRow k' b ∈ t.exportRows :=
    List.mem_cons_of_mem _ (List.mem_map_of_mem (t.sorted_perm.mem_iff.mpr hentry))
  have hcell : part ∈ exportRow k' b := by
    unfold exportRow
    exact List.mem_append_left _ (List.mem_append_left _ (List.mem_append_left _ hpart))
  exact Csv.hasSequence_write (List.mem_map_of_mem hrow) (List.mem_map_of_mem hcell) h

end BenchCompare
