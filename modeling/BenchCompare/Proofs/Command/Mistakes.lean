import BenchCompare.Proofs.Command.Quiet
import BenchCompare.Proofs.Settings.Contract

/-! # Which mistakes are reported

  A mistake of the user is a failure of one of two kinds: a file is not there, or a
  value is bad.  The user should get a message then.  That is so for the
  configuration file, the settings, and both jobs.  What is done before, between and
  after these reports no mistake: the mistakes that can be made there are listed in
  `Unreported`, and every one of them ends a run without a message.

  * `Failure.IsMistake`: a failure is of one of the two kinds.
  * `Outcome.Reports`: a run has shown a message.

  Main statement: `mistakes_reported`, with a run behind it that keeps a mistake to
  itself.
-/

namespace BenchCompare.Command

open Log (Session)

/-! ### Mistakes -/

/-- A file is not there, or its path or its text is a bad value. -/
def IsFileMistake : FileSystem.FileFault → Prop
  | .notFound _ | .nullCharacter | .unencodable _ | .encoding _ => True
  | .notDirectory _ | .isDirectory _ | .tooLong _ | .denied _ => False

/-- A failure says that a file is not there, or that a value is bad. -/
def Failure.IsMistake : Failure → Prop
  | library e => e.isMistake = true
  | logFile fault | output fault => IsFileMistake fault
  | config fault => fault.kind = .missing ∨ fault.kind = .badValue
  | settings fault => fault.IsBadValue
  | load fault => fault.kind = .missing ∨ fault.kind = .badValue
  | wordless | count _ | cell _ | printed _ => True

/-- A run has shown a message. -/
def Outcome.Reports (env : Platform) (outcome : Outcome) (message : Text) : Prop :=
  EndsWithError env outcome.shown message

/-- The mistakes that a run keeps to itself. -/
inductive Unreported (env : Platform) (fs : FileSystem) (args : List Text) : Failure → Prop
  /-- The library for command lines lets a mistake out. -/
  | library {e : Thrown} (thrown : env.read fs args = .thrown e) (mistake : e.isMistake = true) :
      Unreported env fs args (.library e)
  /-- The directory of the log file is not there, or the path of the log file is a bad value. -/
  | logFile {r : Request} {p : Path} {fault : FileSystem.FileFault} (asks : Asks env fs args r)
      (file : r.logging.file = some p) (target : fs.target (fs.absolute p) = .error fault)
      (mistake : IsFileMistake fault) : Unreported env fs args (.logFile fault)
  /-- The least count is negative, and has too many digits for the message that should say so. -/
  | wordless {r : Request} {s : Session} {entries : Entries} {c : Settings} (asks : Asks env fs args r)
      (started : Started fs r s) (mapping : r.mapping env.yaml s.files = .ok entries)
      (settings : r.settings env.room entries = .ok c) (negative : c.minCount < 0)
      (long : Decimal.isWritable c.minCount = false) : Unreported env fs args .wordless
  /-- A count in one of the jobs has too many digits. -/
  | count {r : Request} {s s' : Session} {c : Settings} {left right : Job} {digits : Nat}
      (asks : Asks env fs args r) (settled : Settled env fs r c s)
      (loaded : Loaded env c s left right s')
      (long : (Table.ofJobs left right c.minCount).stoppedBy = some digits) :
      Unreported env fs args (.count digits)
  /-- The directory of the output file is not there, or the path of the output file is a bad value. -/
  | outputFile {r : Request} {s : Session} {c : Settings} {t : Table} {p : Path}
      {fault : FileSystem.FileFault} (asks : Asks env fs args r) (tabulated : Tabulated env fs r c t s)
      (format : c.format ≠ "table") (output : c.output = some p)
      (target : s.files.target p = .error fault) (mistake : IsFileMistake fault) :
      Unreported env fs args (.output fault)
  /-- The output cannot be encoded when it is written. -/
  | outputText {r : Request} {s : Session} {c : Settings} {t : Table} {p : Path} {names : List Text}
      {text : Text} {halved : Text.EncodeFault} (asks : Asks env fs args r)
      (tabulated : Tabulated env fs r c t s) (format : c.format ≠ "table") (output : c.output = some p)
      (target : s.files.target p = .ok names) (render : rendered c.format t = .ok text)
      (encode : text.encode = .error halved) : Unreported env fs args (.output (.unencodable halved))
  /-- What is printed of a comparison that was made cannot be encoded. -/
  | printed {r : Request} {s : Session} {line : Option Text} {halved : Text.EncodeFault}
      (asks : Asks env fs args r) (made : Yields (compare env r) (.start fs) line s)
      (encode : (printedLine env line).encode = .error halved) : Unreported env fs args (.printed halved)

/-- How a run tells of mistakes. -/
structure MistakesReported (env : Platform) (fs : FileSystem) (args : List Text) : Prop where
  /-- Without a failure that it keeps to itself, a run ends well or with a message.  The program without
  words shows its help text instead. -/
  ends : (run env fs args).failure = none → args ≠ [] → (run env fs args).exitCode = 0 ∨
    ((run env fs args).exitCode = 1 ∨ (run env fs args).exitCode = 2) ∧
      ∃ message, (run env fs args).Reports env message
  /-- A comparison that is not made because of a mistake tells of it, apart from the exceptions. -/
  reported : ∀ r f s, Asks env fs args r → Stops (compare env r) (.start fs) (.failed f) s → f.IsMistake →
    ¬ Unreported env fs args f →
      (run env fs args).exitCode = 1 ∧ (run env fs args).Reports env f.message
  /-- The exceptions are the mistakes that a run keeps to itself, and they are no mere possibilities. -/
  unreported : ∀ f, Unreported env fs args f ↔ (run env fs args).failure = some f ∧ f.IsMistake

/-! ### Messages -/

section

variable {env : Platform} {fs : FileSystem} {args : List Text} {r : Request} {f : Failure}
  {s : Session}

theorem reports_refused (henv : env.Complains) (message : Text) (s : Session) :
    (Outcome.ofWork env (.error (.refused message)) s).Reports env message :=
  (henv.complaint message).append s.console

theorem ofWork_of_mendable (h : f.isMendable = true) (s : Session) :
    Outcome.ofWork env (.error (.failed f)) s =
      ⟨1, "", s.console ++ env.plain ("Error: " ++ f.message ++ "\n"), s.files, none⟩ := if_pos h

theorem ofWork_of_not_mendable (h : f.isMendable = false) (s : Session) :
    Outcome.ofWork env (.error (.failed f)) s = ⟨1, "", s.console, s.files, some f⟩ :=
  if_neg (by rw [h]; exact Bool.false_ne_true)

theorem reports_of_mendable (henv : env.Complains) (h : f.isMendable = true) (s : Session) :
    (Outcome.ofWork env (.error (.failed f)) s).Reports env f.message := by
  rw [ofWork_of_mendable h]
  exact (henv.error f.message).append s.console

/-! ### Failures -/

/-- A failure of a comparison is reported if it is a mistake, or it is one of the exceptions. -/
theorem isMendable_or_unreported (hasks : Asks env fs args r) (h : Stopped env fs r (.failed f) s)
    (hmistake : f.IsMistake) :
    f.isMendable = true ∨ f.isMendable = false ∧ Unreported env fs args f := by
  -- The settings and the jobs are where mistakes are reported; every other stage keeps them to itself.
  cases h with
  | @logFile fault _ configure =>
    rcases Log.configure_spec fs r.logging with
      ⟨s₁, hconfigure, -⟩ | ⟨s₁, p, fault, hconfigure, hfile, htarget, -⟩
    · cases configure.symm.trans hconfigure
    · cases configure.symm.trans hconfigure
      exact .inr ⟨rfl, .logFile hasks hfile htarget hmistake⟩
  | unsettled started settle =>
    cases settle with
    | @config fault mapping => exact .inl ((FileSystem.mendableConfig_iff fault).mpr hmistake)
    | settings mapping settings => exact .inl ((mendableSettings_iff _).mpr hmistake)
    | wordless mapping settings wordless =>
      unfold Settings.canBeWorded at wordless
      rw [Bool.or_eq_false_iff, decide_eq_false_iff_not, Int.not_le] at wordless
      exact .inr ⟨rfl, .wordless hasks started mapping settings wordless.1 wordless.2⟩
  | untabulated settled tabulate =>
    rcases stops_tabulate.mp tabulate with
      hleft | ⟨left, s₁, -, hright⟩ | ⟨left, right, s₁, digits, hloaded, hlong, he, -⟩
    · obtain ⟨fault, he⟩ := stops_loadSide hleft
      cases he
      exact .inl ((mendableJob_iff fault).mpr hmistake)
    · obtain ⟨fault, he⟩ := stops_loadSide hright
      cases he
      exact .inl ((mendableJob_iff fault).mpr hmistake)
    · cases he
      exact .inr ⟨rfl, .count hasks settled hloaded hlong⟩
  | undelivered tabulated deliver =>
    obtain ⟨format, render, output, files⟩ := deliver
    rcases (FileSystem.writeText_eq_fault_iff _).mp files with
      ⟨htarget, -⟩ | ⟨names, halved, htarget, hencode, rfl, -⟩
    · exact .inr ⟨rfl, .outputFile hasks tabulated format output htarget hmistake⟩
    · exact .inr ⟨rfl, .outputText hasks tabulated format output htarget render hencode⟩

theorem failure_eq_some_of_stopped (hasks : Asks env fs args r) (h : Stopped env fs r (.failed f) s)
    (hmendable : f.isMendable = false) : (run env fs args).failure = some f := by
  rw [run_of_stops hasks (stops_compare.mpr h), ofWork_of_not_mendable hmendable]

/-- Each of the exceptions does happen, and is a mistake. -/
theorem failure_of_unreported (h : Unreported env fs args f) :
    (run env fs args).failure = some f ∧ f.IsMistake := by
  cases h with
  | library thrown mistake => exact ⟨congrArg Outcome.failure (run_of_thrown thrown), mistake⟩
  | @logFile r p fault asks file target mistake =>
    refine ⟨?_, mistake⟩
    rcases Log.configure_spec fs r.logging with
      ⟨s₁, -, hlogging⟩ | ⟨s₁, q, fault', hconfigure, hfile, htarget, -⟩
    · obtain ⟨names, htarget, -⟩ := hlogging.opened p file
      cases target.symm.trans htarget
    · cases file.symm.trans hfile
      cases target.symm.trans htarget
      exact failure_eq_some_of_stopped asks (.logFile hconfigure) rfl
  | wordless asks started mapping settings negative long =>
    refine ⟨?_, trivial⟩
    have hwordless : Settings.canBeWorded _ = false :=
      Bool.or_eq_false_iff.mpr ⟨decide_eq_false (Int.not_le.mpr negative), long⟩
    exact failure_eq_some_of_stopped asks (.unsettled started (.wordless mapping settings hwordless)) rfl
  | count asks settled loaded long =>
    refine ⟨?_, trivial⟩
    have hstops := stops_tabulate.mpr (.inr (.inr ⟨_, _, _, _, loaded, long, rfl, rfl⟩))
    exact failure_eq_some_of_stopped asks (.untabulated settled hstops) rfl
  | @outputFile r s c t p fault asks tabulated format output target mistake =>
    refine ⟨?_, mistake⟩
    obtain ⟨text, hrender⟩ := exists_rendered c.format t
    have hfiles := (FileSystem.writeText_eq_fault_iff text).mpr (.inl ⟨target, rfl⟩)
    exact failure_eq_some_of_stopped asks (.undelivered tabulated (.intro format hrender output hfiles)) rfl
  | @outputText r s c t p names text halved asks tabulated format output target render encode =>
    refine ⟨?_, trivial⟩
    have hfiles := (FileSystem.writeText_eq_fault_iff text).mpr (.inr ⟨_, _, target, encode, rfl, rfl⟩)
    exact failure_eq_some_of_stopped asks (.undelivered tabulated (.intro format render output hfiles)) rfl
  | printed asks made encode => exact ⟨congrArg Outcome.failure (run_of_untold asks made encode), trivial⟩

/-- A failure without a message is no mistake, or it is one of the exceptions. -/
theorem unreported_of_failure (hfailure : (run env fs args).failure = some f) (hmistake : f.IsMistake) :
    Unreported env fs args f := by
  cases hread : env.read fs args with
  | ended exitCode printed shown =>
    rw [run_of_ended hread] at hfailure
    cases hfailure
  | thrown e =>
    rw [run_of_thrown hread] at hfailure
    cases hfailure
    exact .library hread hmistake
  | request r =>
    rcases yields_or_stops (compare env r) (.start fs) with ⟨line, s, hyields⟩ | ⟨e, s, hstops⟩
    · rcases told_or_untold env line with ⟨printed, hprinted⟩ | ⟨fault, hprinted⟩
      · rw [run_of_told hread hyields hprinted] at hfailure
        cases hfailure
      · rw [run_of_untold hread hyields hprinted] at hfailure
        cases hfailure
        exact .printed hread hyields hprinted
    · rw [run_of_stops hread hstops] at hfailure
      cases e with
      | refused message => cases hfailure
      | failed f' =>
        cases hmendable : f'.isMendable with
        | true =>
          rw [ofWork_of_mendable hmendable] at hfailure
          cases hfailure
        | false =>
          rw [ofWork_of_not_mendable hmendable] at hfailure
          cases hfailure
          rcases isMendable_or_unreported hread (stops_compare.mp hstops) hmistake with h | ⟨-, h⟩
          · rw [hmendable] at h
            cases h
          · exact h

/-- A run without a failure ends well or with a message. -/
theorem ends_of_noFailure (henv : env.Complains) (hfailure : (run env fs args).failure = none)
    (hargs : args ≠ []) : (run env fs args).exitCode = 0 ∨
      ((run env fs args).exitCode = 1 ∨ (run env fs args).exitCode = 2) ∧
        ∃ message, (run env fs args).Reports env message := by
  cases hread : env.read fs args with
  | ended exitCode printed shown =>
    rw [run_of_ended hread]
    exact henv.ended fs args exitCode printed shown hargs hread
  | thrown e =>
    rw [run_of_thrown hread] at hfailure
    cases hfailure
  | request r =>
    rcases yields_or_stops (compare env r) (.start fs) with ⟨line, s, hyields⟩ | ⟨e, s, hstops⟩
    · rcases told_or_untold env line with ⟨printed, hprinted⟩ | ⟨fault, hprinted⟩
      · rw [run_of_told hread hyields hprinted]
        exact .inl rfl
      · rw [run_of_untold hread hyields hprinted] at hfailure
        cases hfailure
    · rw [run_of_stops hread hstops] at hfailure ⊢
      cases e with
      | refused message => exact .inr ⟨.inr rfl, message, reports_refused henv message s⟩
      | failed f' =>
        cases hmendable : f'.isMendable with
        | true =>
          refine .inr ⟨.inl ?_, _, reports_of_mendable henv hmendable s⟩
          rw [ofWork_of_mendable hmendable]
        | false =>
          rw [ofWork_of_not_mendable hmendable] at hfailure
          cases hfailure

/-! ### Main statement -/

/-- **Which mistakes are reported**: all but seven, and these seven never. -/
theorem mistakes_reported (henv : env.Complains) (fs : FileSystem) (args : List Text) :
    MistakesReported env fs args where
  ends hfailure hargs := ends_of_noFailure henv hfailure hargs
  reported r f s hasks hstops hmistake hnot := by
    rcases isMendable_or_unreported hasks (stops_compare.mp hstops) hmistake with hmendable | ⟨-, h⟩
    · rw [run_of_stops hasks hstops]
      refine ⟨?_, reports_of_mendable henv hmendable s⟩
      rw [ofWork_of_mendable hmendable]
    · exact absurd h hnot
  unreported f := ⟨failure_of_unreported, fun h => unreported_of_failure h.1 h.2⟩

end

/-! ### Two runs -/

/-- An option without its value is refused with a message. -/
theorem mistakes_reported_noValue :
    let env := Platform.standard ""
    let after := run env (onlyRun (Text.asciiFile emptyRunText)) ["compare", "--format"]
    env.Complains ∧ after.exitCode = 2 ∧ after.failure = none ∧ ∃ message, after.Reports env message := by
  intro env after
  have hrefused : after =
      ⟨2, "", CommandLine.complaint .compare (.words (.noValue "--format")), _, none⟩ :=
    run_of_ended (CommandLine.read_eq_refused (by decide +kernel) (by decide +kernel))
  have hcode : after.exitCode = 2 := congrArg Outcome.exitCode hrefused
  have hfailure : after.failure = none := congrArg Outcome.failure hrefused
  refine ⟨complains_standard "", hcode, hfailure, ?_⟩
  rcases (mistakes_reported (complains_standard "") _ _).ends hfailure (List.cons_ne_nil _ _) with
    hzero | ⟨-, hmessage⟩
  · exact absurd (hcode.symm.trans hzero) (by decide)
  · exact hmessage

/-- The directory of the output file is not there, which is a mistake, but nothing is shown. -/
theorem missingDirectory_unreported :
    let env := Platform.standard ""
    let fs := onlyRun (Text.asciiFile emptyRunText)
    let after := run env fs (selfArgs (some "missing/out.csv"))
    let failure := Failure.output (.notFound ⟨0, ["missing", "out.csv"]⟩)
    after.failure = some failure ∧ failure.IsMistake ∧ after.exitCode = 1 ∧
      ∀ message, ¬ after.Reports env message := by
  intro env fs after failure
  have hsettings : (selfRequest (some "missing/out.csv")).settings Value.usualRoom [] =
      .ok (selfSettings (some ⟨0, ["missing", "out.csv"]⟩)) := by cbv
  have htarget : fs.target ⟨0, ["missing", "out.csv"]⟩ =
      .error (.notFound ⟨0, ["missing", "out.csv"]⟩) := by cbv
  have htabulated := tabulated_self env hsettings readRun_emptyRunText rfl
  have hfiles := (FileSystem.writeText_eq_fault_iff Table.empty.exported).mpr (.inl ⟨htarget, rfl⟩)
  have hstopped := Stopped.undelivered htabulated
    (.intro (by decide : ("csv" : Text) ≠ "table") rfl rfl hfiles)
  have hrun : after = ⟨1, "", "", fs, some failure⟩ :=
    run_of_stops (asks_selfArgs_missing "") (stops_compare.mpr hstopped)
  rw [hrun]
  refine ⟨rfl, trivial, rfl, ?_⟩
  rintro message ⟨before, hshown⟩
  -- A message would make what is shown longer than nothing.
  have hlength := congrArg (fun t => t.toList.length) hshown
  simp at hlength

end BenchCompare.Command
