import BenchCompare.Command.Standard
import BenchCompare.Proofs.Text.Terminal

/-! # What is known of the platform

  Nothing about a run depends on how the libraries that it stands on are written.  A
  few statements need what is documented of them:

  * `Platform.Complains`: complaints end with an error message, and in front of an
    escape character nothing is left out of what is printed.
  * `Platform.Strips`: what is printed is as it is if there is no control sequence in
    it, and otherwise not.

  The platform that the program runs with has both properties, whatever the time is:
  `complains_standard` and `strips_standard`.
-/

namespace BenchCompare.Command

/-! ### Documented properties -/

/-- A text ends with an error message. -/
def EndsWithError (env : Platform) (shown message : Text) : Prop :=
  ∃ before, shown = before ++ "Error: " ++ env.plain (message ++ "\n")

/-- What is documented of complaints. -/
structure Platform.Complains (env : Platform) : Prop where
  /-- Text without escape characters is printed as it is, whatever follows. -/
  plain : ∀ before text, Text.escapeChar ∉ before.toList →
    env.plain (before ++ text) = before ++ env.plain text
  /-- A complaint of the command ends with its message. -/
  complaint : ∀ message, EndsWithError env (env.complaint message) message
  /-- A run that the library ends itself, it ends well or with a message.  The program without words shows
  its help text instead. -/
  ended : ∀ fs args exitCode printed shown, args ≠ [] →
    env.read fs args = .ended exitCode printed shown →
      exitCode = 0 ∨ (exitCode = 1 ∨ exitCode = 2) ∧ ∃ message, EndsWithError env shown message

/-- What is documented of printing elsewhere than on a terminal: the control sequences are left out, and a
text without any stays as it is. -/
structure Platform.Strips (env : Platform) (IsSequence : List CodePoint → Prop) : Prop where
  /-- A text stays as it is exactly if no part of it is a sequence. -/
  plain : ∀ text, env.plain text = text ↔ ¬ Text.Contains IsSequence text.toList
  /-- A sequence does not go over the end of a line. -/
  line : ∀ s, IsSequence s → CodePoint.lineFeed ∉ s

section

variable {env : Platform}

theorem Platform.Complains.error (h : env.Complains) (message : Text) :
    EndsWithError env (env.plain ("Error: " ++ message ++ "\n")) message := by
  have herror : Text.escapeChar ∉ ("Error: " : Text).toList := by decide
  refine ⟨"", ?_⟩
  rw [Text.empty_append, ← h.plain "Error: " (message ++ "\n") herror, ← Text.append_assoc]

theorem EndsWithError.append {shown message : Text} (h : EndsWithError env shown message)
    (before : Text) : EndsWithError env (before ++ shown) message := by
  obtain ⟨before', rfl⟩ := h
  exact ⟨before ++ before', by simp only [Text.append_assoc]⟩

/-! ### The platform of the program -/

namespace CommandLine

variable {fs : FileSystem} {args : List Text}

theorem escapeChar_notMem_usage (p : Place) :
    Text.escapeChar ∉ (lines [p.usage, s!"Try '{p.path} --help' for help.", ""]).toList := by
  cases p <;> decide +kernel

/-- The wording of a misuse ends with its message. -/
theorem exists_text (p : Place) (m : Misuse) :
    ∃ before, Text.escapeChar ∉ before.toList ∧ m.text p = before ++ ("Error: " ++ (m.message ++ "\n")) := by
  unfold Misuse.text
  dsimp only
  split
  · refine ⟨_, escapeChar_notMem_usage p, Text.toList_injective ?_⟩
    simp [lines]
  · refine ⟨"", by decide, Text.toList_injective ?_⟩
    simp [lines]

theorem complaint_eq (p : Place) (m : Misuse) : ∃ before,
    complaint p m = before ++ "Error: " ++ Text.unadorned (m.message ++ "\n") := by
  obtain ⟨before, hbefore, htext⟩ := exists_text p m
  have herror : Text.escapeChar ∉ ("Error: " : Text).toList := by decide
  refine ⟨before, ?_⟩
  unfold complaint
  rw [htext, Text.unadorned_append_of_plain hbefore, Text.unadorned_append_of_plain herror,
    Text.append_assoc]

/-- How the library can end a run. -/
inductive Ending : Reading → Prop
  | request (r : Request) : Ending (.request r)
  | printed (text : Text) : Ending (.ended 0 text "")
  | refused (p : Place) (m : Misuse) : Ending (refused p m)
  | thrown (e : Thrown) : Ending (.thrown e)

theorem ending_readCompare (fs : FileSystem) (args : List Text) : Ending (readCompare fs args) := by
  unfold readCompare
  split
  · exact .refused _ _
  · split
    · exact .printed _
    · split
      · exact .refused _ _
      · exact .thrown _
      · exact .thrown _
      · exact .request _

theorem ending_withProgramWords {go : List Text → Reading} (h : ∀ rest, Ending (go rest))
    (args : List Text) : Ending (withProgramWords args go) := by
  unfold withProgramWords
  split
  · exact .refused _ _
  · split
    · exact .printed _
    · exact h _

theorem ending_read (hargs : args ≠ []) : Ending (read fs args) := by
  unfold read
  rw [if_neg (by simpa using hargs)]
  refine ending_withProgramWords (fun rest => ?_) args
  split
  · exact .refused _ _
  · split
    · exact ending_readCompare fs _
    · exact ending_withProgramWords (fun _ => .refused _ _) _

theorem read_eq_readCompare {rest : List Text}
    (hprogram : Words.ofList programOptions false (compareName :: rest) = .ok ⟨[], compareName :: rest⟩) :
    read fs (compareName :: rest) = readCompare fs rest := by
  unfold read withProgramWords
  rw [List.isEmpty_cons, hprogram]
  dsimp only
  rw [if_neg Bool.false_ne_true, if_pos rfl]

/-- Words behind the name of the command make a request, if no help is asked for. -/
theorem read_eq_request (words : Words CompareOption) {rest : List Text} {r : Request}
    (hprogram : Words.ofList programOptions false (compareName :: rest) = .ok ⟨[], compareName :: rest⟩)
    (hwords : Words.ofList compareOptions true rest = .ok words) (hhelp : words.has .help = false)
    (hr : request fs words = .ok r) : read fs (compareName :: rest) = .request r := by
  rw [read_eq_readCompare hprogram]
  unfold readCompare
  rw [hwords]
  dsimp only
  rw [hhelp, hr]
  rfl

/-- Words behind the name of the command that cannot be taken apart are refused. -/
theorem read_eq_refused {rest : List Text} {fault : WordFault}
    (hprogram : Words.ofList programOptions false (compareName :: rest) = .ok ⟨[], compareName :: rest⟩)
    (hwords : Words.ofList compareOptions true rest = .error fault) :
    read fs (compareName :: rest) = refused .compare (.words fault) := by
  rw [read_eq_readCompare hprogram]
  unfold readCompare
  rw [hwords]

end CommandLine

theorem complains_standard (stamp : String) : (Platform.standard stamp).Complains where
  plain _ text h := Text.unadorned_append_of_plain h text
  complaint message := CommandLine.complaint_eq .compare (.complaint message)
  ended fs args exitCode printed shown hargs hended := by
    have hending : CommandLine.Ending (.ended exitCode printed shown) :=
      hended ▸ CommandLine.ending_read hargs
    cases hending with
    | printed => exact .inl rfl
    | refused p m => exact .inr ⟨.inr rfl, m.message, CommandLine.complaint_eq p m⟩

theorem strips_standard (stamp : String) : (Platform.standard stamp).Strips Text.IsSequence where
  plain := Text.unadorned_eq_self_iff
  line _ h := Text.newline_notMem_of_isSequence h

end

end BenchCompare.Command
