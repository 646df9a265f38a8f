import BenchCompare.File.Path
import BenchCompare.Proofs.Text.Lines
import Mathlib.Data.List.Basic
import Mathlib.Data.List.TakeWhile

/-! # Normal forms of paths

  A path that was written is kept in normal form.  A path in normal form is written
  so that it is read back as it was.

  * `IsNormal p`: the path is in normal form.
  * `NormalForm s p`: this is the normal form of what was written.

  Main statements: `ofText_text_ofText` and `ofText_eq_iff`.
-/

namespace BenchCompare

namespace Path

/-- The form that paths are kept in. -/
structure IsNormal (p : Path) : Prop where
  /-- No more than two slashes stand in front. -/
  slashes : p.slashes ≤ 2
  /-- A part is neither empty nor a dot. -/
  parts : ∀ part ∈ p.parts, part ≠ "" ∧ part ≠ "."
  /-- Slashes divide the parts and are in none of them. -/
  divided : ∀ part ∈ p.parts, slash ∉ part.toList

theorem isNormal_ofText (s : Text) : (ofText s).IsNormal where
  slashes := by
    show normalSlashes _ ≤ 2
    unfold normalSlashes
    split
    · assumption
    · exact Nat.le_succ 1
  parts part h := by
    obtain ⟨-, hpart⟩ := List.mem_filter.mp h
    exact of_decide_eq_true hpart
  divided part h := by
    obtain ⟨hmem, -⟩ := List.mem_filter.mp h
    obtain ⟨cs, hcs, rfl⟩ := List.mem_map.mp hmem
    exact Text.not_mem_of_mem_splitOn slash hcs

/-- The characters of the parts start with one that is no slash. -/
theorem exists_head_of_isNormal {p : Path} (hp : p.IsNormal) (h : p.parts ≠ []) :
    ∃ c cs, [slash].intercalate (p.parts.map Text.toList) = c :: cs ∧ c ≠ slash := by
  obtain ⟨part, parts, hparts⟩ := List.exists_cons_of_ne_nil h
  have hpart : part ∈ p.parts := by
    rw [hparts]
    exact List.mem_cons_self
  have hne : part.toList ≠ [] := by
    rw [Ne, Text.toList_eq_nil_iff]
    exact (hp.parts part hpart).1
  obtain ⟨c, cs, hchars⟩ := List.exists_cons_of_ne_nil hne
  have hc : c ≠ slash := by
    rintro rfl
    exact hp.divided part hpart (by rw [hchars]; exact List.mem_cons_self)
  rw [hparts, List.map_cons, hchars]
  cases parts with
  | nil => exact ⟨c, cs, List.intercalate_singleton, hc⟩
  | cons other parts =>
    rw [List.intercalate_cons_of_ne_nil (by simp)]
    exact ⟨c, _, rfl, hc⟩

/-- The characters of a path that has parts. -/
theorem toList_text {p : Path} (hp : p.IsNormal) (h : p.parts ≠ []) : p.text.toList =
    List.replicate p.slashes slash ++ [slash].intercalate (p.parts.map Text.toList) := by
  obtain ⟨c, cs, hhead, -⟩ := exists_head_of_isNormal hp h
  have hwritten : (Text.ofList (List.replicate p.slashes slash) ++ Text.intercalate "/" p.parts).toList =
      List.replicate p.slashes slash ++ [slash].intercalate (p.parts.map Text.toList) := by
    rw [Text.toList_append, Text.toList_intercalate]
    rfl
  have hempty : ¬ (Text.ofList (List.replicate p.slashes slash) ++ Text.intercalate "/" p.parts).isEmpty := by
    rw [Text.isEmpty_iff, ← Text.toList_eq_nil_iff, hwritten, hhead]
    exact List.append_ne_nil_of_right_ne_nil _ (List.cons_ne_nil c cs)
  unfold text
  rw [if_neg hempty, hwritten]

theorem splitOn_replicate_append (n : Nat) (cs : List CodePoint) :
    Text.splitOn slash (List.replicate n slash ++ cs) = List.replicate n [] ++ Text.splitOn slash cs := by
  induction n with
  | zero => rfl
  | succ n ih =>
    rw [List.replicate_succ, List.cons_append, List.replicate_succ, List.cons_append, ← ih]
    rfl

theorem takeWhile_replicate_append (n : Nat) {c : CodePoint} (h : c ≠ slash) (cs : List CodePoint) :
    (List.replicate n slash ++ c :: cs).takeWhile (· = slash) = List.replicate n slash := by
  rw [List.takeWhile_append_of_pos fun c hc => by simpa using (List.mem_replicate.mp hc).2,
    List.takeWhile_cons_of_neg (by simpa using h), List.append_nil]

/-- A path in normal form is read back as it was. -/
theorem ofText_text {p : Path} (hp : p.IsNormal) : ofText p.text = p := by
  obtain ⟨slashes, parts⟩ := p
  by_cases hparts : parts = []
  · subst hparts
    have hslashes : slashes ≤ 2 := hp.slashes
    match slashes with
    | 0 | 1 | 2 => decide +kernel
  · obtain ⟨c, cs, hhead, hc⟩ := exists_head_of_isNormal hp hparts
    have hsplit : Text.splitOn slash ([slash].intercalate (parts.map Text.toList)) =
        parts.map Text.toList := by
      refine Text.splitOn_intercalate ?_ (by simpa using hparts)
      intro cs hcs
      obtain ⟨part, hpart, rfl⟩ := List.mem_map.mp hcs
      exact hp.divided part hpart
    have hnames : (parts.map Text.toList).map Text.ofList = parts := by
      rw [List.map_map]
      exact List.map_id'' (fun _ => rfl) parts
    unfold ofText
    dsimp only
    rw [toList_text hp hparts]
    dsimp only
    rw [splitOn_replicate_append, hsplit, hhead, takeWhile_replicate_append slashes hc,
      List.length_replicate, List.map_append, hnames, List.filter_append]
    have hempty : (List.map Text.ofList (List.replicate slashes [])).filter
        (fun part : Text => part ≠ "" ∧ part ≠ ".") = [] := by
      rw [List.map_replicate, List.filter_replicate_of_neg (by decide)]
    have hall : parts.filter (fun part : Text => part ≠ "" ∧ part ≠ ".") = parts :=
      List.filter_eq_self.mpr fun part hpart => decide_eq_true (hp.parts part hpart)
    rw [hempty, hall, List.nil_append]
    congr 1
    exact if_pos hp.slashes

theorem ofText_text_ofText (s : Text) : ofText (ofText s).text = ofText s :=
  ofText_text (isNormal_ofText s)

/-! ### The normal form of a text -/

/-- A path is the normal form of what was written. -/
structure NormalForm (s : Text) (p : Path) : Prop where
  /-- Up to two slashes in front stay, and more are one. -/
  slashes : ∃ n rest, s.toList = List.replicate n slash ++ rest ∧ rest.head? ≠ some slash ∧
    p.slashes = if n ≤ 2 then n else 1
  /-- What stands between slashes stays, `..` as well, but for what is empty or a dot. -/
  parts : ∃ between, s.toList = [slash].intercalate between ∧ between ≠ [] ∧
    (∀ part ∈ between, slash ∉ part) ∧
    p.parts.map Text.toList = between.filter fun part => part ≠ [] ∧ part ≠ [.char '.']
  /-- The path is written with its parts between slashes, and as a dot if there is nothing to write. -/
  text : p.text.toList = if p.slashes = 0 ∧ p.parts = [] then [.char '.'] else
    List.replicate p.slashes slash ++ [slash].intercalate (p.parts.map Text.toList)

theorem takeWhile_slashes {n : Nat} {rest : List CodePoint} (h : rest.head? ≠ some slash) :
    (List.replicate n slash ++ rest).takeWhile (· = slash) = List.replicate n slash := by
  cases rest with
  | nil =>
    rw [List.append_nil, List.takeWhile_replicate]
    rfl
  | cons c cs => exact takeWhile_replicate_append n (fun hc => h (congrArg some hc)) cs

theorem parts_ofText (s : Text) : (ofText s).parts.map Text.toList =
    (Text.splitOn slash s.toList).filter fun part => part ≠ [] ∧ part ≠ [.char '.'] := by
  have hsame : (fun part : Text => decide (part ≠ "" ∧ part ≠ ".")) ∘ Text.ofList =
      fun part => decide (part ≠ [] ∧ part ≠ [.char '.']) := by
    funext part
    rw [Function.comp_apply, decide_eq_decide]
    have hempty : Text.ofList part = "" ↔ part = [] := by
      rw [← Text.toList_inj]
      rfl
    have hdot : Text.ofList part = "." ↔ part = [.char '.'] := by
      rw [← Text.toList_inj]
      rfl
    rw [ne_eq, ne_eq, hempty, hdot]
  show (((Text.splitOn slash s.toList).map Text.ofList).filter _).map Text.toList = _
  rw [List.filter_map, hsame, List.map_map]
  exact List.map_id'' (fun _ => rfl) _

theorem normalForm_ofText (s : Text) : NormalForm s (ofText s) where
  slashes := by
    refine ⟨(s.toList.takeWhile (· = slash)).length, s.toList.dropWhile (· = slash), ?_, ?_, rfl⟩
    · have hslashes : s.toList.takeWhile (· = slash) =
          List.replicate (s.toList.takeWhile (· = slash)).length slash := by
        apply List.eq_replicate_of_mem
        intro c hc
        simpa using List.mem_takeWhile_imp hc
      rw [← hslashes, List.takeWhile_append_dropWhile]
    · intro hhead
      have hnot := List.head?_dropWhile_not (· = slash) s.toList
      rw [hhead] at hnot
      simp at hnot
  parts := by
    refine ⟨Text.splitOn slash s.toList, ?_, ?_, ?_, parts_ofText s⟩
    · rw [Text.splitOn_eq, List.intercalate_splitOn]
    · rw [Text.splitOn_eq]
      exact List.splitOn_ne_nil _ _
    · exact fun part hpart => Text.not_mem_of_mem_splitOn slash hpart
  text := by
    have hnormal := isNormal_ofText s
    generalize ofText s = p at hnormal
    by_cases hparts : p.parts = []
    · obtain ⟨slashes, parts⟩ := p
      obtain rfl : parts = [] := hparts
      have hslashes : slashes ≤ 2 := hnormal.slashes
      match slashes with
      | 0 | 1 | 2 => decide +kernel
    · rw [toList_text hnormal hparts, if_neg fun h => hparts h.2]

/-- **Each text has one normal form**, and it is the one that it is read as. -/
theorem ofText_eq_iff {s : Text} {p : Path} : ofText s = p ↔ NormalForm s p := by
  constructor
  · rintro rfl
    exact normalForm_ofText s
  · intro h
    obtain ⟨n, rest, hs, hrest, hslashes⟩ := h.slashes
    obtain ⟨between, hs', hne, hdivided, hparts⟩ := h.parts
    -- The slashes in front are counted from the left, and what is between slashes is found by splitting.
    have hfront : (ofText s).slashes = p.slashes := by
      show normalSlashes (s.toList.takeWhile (· = slash)).length = p.slashes
      rw [hs, takeWhile_slashes hrest, List.length_replicate, hslashes]
      rfl
    have hbetween : (ofText s).parts = p.parts := by
      apply List.map_injective_iff.mpr fun _ _ => Text.toList_injective
      rw [parts_ofText, hs', Text.splitOn_intercalate hdivided hne, hparts]
    cases hp : ofText s
    rw [hp] at hfront hbetween
    cases p
    cases hfront
    cases hbetween
    rfl

end Path

end BenchCompare
