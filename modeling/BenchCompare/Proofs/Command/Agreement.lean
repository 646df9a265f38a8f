import BenchCompare.Proofs.Command.Output
import BenchCompare.Proofs.Csv.Sequences
import BenchCompare.Proofs.Settings.Contract

/-! # The same output on the console and in a file

  Two runs that differ in nothing but the output file make the same comparison.  The
  file takes its text as it is.  What is printed has lost its control sequences, so
  the two texts are the same if and only if there are none in it.  Which characters
  are control sequences is up to the library that prints.

  Main statement: `printed_eq_written_iff`, with two runs behind it for which the
  texts are the same, and two for which they are not.
-/

namespace BenchCompare.Command

open Log (Session)

/-- One run has printed a text, and another has written it to a file: the file holds it as it is, and it
was printed without its control sequences. -/
structure PrintedAndWritten (env : Platform) (IsSequence : List CodePoint → Prop) (text : String)
    (printing writing : Outcome) (p : Path) : Prop where
  /-- The file holds the text. -/
  written : writing.files.find? p = some (.file text.toUTF8)
  /-- The text was printed, and a line end behind it. -/
  printed : printing.printed = env.plain (text ++ "\n")
  /-- What was printed is what the file holds exactly if there is no control sequence in it. -/
  same : printing.printed = text ++ "\n" ↔ ¬ Text.Contains IsSequence (text : Text).toList

section

variable {env : Platform} {IsSequence : List CodePoint → Prop} {stamp : String} {fs : FileSystem}
  {args args' : List Text} {r : Request} {entries : Entries} {c c' : Settings} {t t' : Table}
  {word : Text} {s s' : Session}

/-! ### The same settings -/

theorem effective_output_of_ne {setting : Setting} (h : setting ≠ .output) :
    effective entries { r with output := some word }.overrides setting =
      effective entries r.overrides setting := by
  unfold effective
  rw [value?_overrides, value?_overrides]
  cases setting with
  | output => exact absurd rfl h
  | _ => rfl

theorem effective_output : effective entries { r with output := some word }.overrides .output =
    some (.str word) := by
  unfold effective
  rw [value?_overrides]
  rfl

/-- An output file on the command line changes the output file in the settings, and nothing else. -/
theorem settings_output {room : Nat} (hc : r.settings room entries = .ok c)
    (hc' : { r with output := some word }.settings room entries = .ok c') :
    c' = { c with output := some (.ofText word) } := by
  obtain ⟨hleft, hright, -, hcount, hformat⟩ := ofValues_eq_ok_iff.mp hc
  obtain ⟨hleft', hright', houtput', hcount', hformat'⟩ := ofValues_eq_ok_iff.mp hc'
  rw [effective_output_of_ne (by decide), hleft] at hleft'
  rw [effective_output_of_ne (by decide), hright] at hright'
  rw [effective_output] at houtput'
  rw [effective_output_of_ne (by decide), hcount] at hcount'
  rw [effective_output_of_ne (by decide), hformat] at hformat'
  have houtput : c'.output = some (.ofText word) := Except.ok.inj houtput'.symm
  obtain ⟨leftJob, rightJob, minCount, format, output⟩ := c'
  cases hleft'
  cases hright'
  cases hcount'
  cases hformat'
  cases houtput
  rfl

/-- Without a report, the problems do not depend on the output file. -/
theorem problems_output {p : Path} (hformat : c.format ≠ "table") :
    { c with output := some p }.problems = c.problems := by
  unfold Settings.problems Settings.problemIf
  simp [hformat]

/-! ### The same table -/

theorem tabulate_congr (hleft : c'.leftJob = c.leftJob) (hright : c'.rightJob = c.rightJob)
    (hcount : c'.minCount = c.minCount) : tabulate env c' = tabulate env c := by
  unfold tabulate
  rw [hleft, hright, hcount]

/-- Runs at the same time come to the same table. -/
theorem table_unique (h : Tabulated env fs r c t s)
    (h' : Tabulated env fs { r with output := some word } c' t' s') (hformat : c.format ≠ "table") :
    c' = { c with output := some (.ofText word) } ∧ t' = t := by
  obtain ⟨s₁, ⟨s₀, hstart, hsettle⟩, htabulate⟩ := h
  obtain ⟨s₁', ⟨s₀', hstart', hsettle'⟩, htabulate'⟩ := h'
  -- Both runs start in the same session: setting logging up does not look at the output file.
  obtain rfl : s₀' = s₀ := by
    unfold Started at hstart hstart'
    cases hstart.symm.trans hstart'
    rfl
  obtain ⟨entries, hmapping, hsettings, -, -, rfl⟩ := yields_settle.mp hsettle
  obtain ⟨entries', hmapping', hsettings', -, -, rfl⟩ := yields_settle.mp hsettle'
  obtain rfl : entries' = entries := by
    cases hmapping.symm.trans hmapping'
    rfl
  obtain rfl := settings_output hsettings hsettings'
  refine ⟨rfl, ?_⟩
  -- They go on in the same session, too, since the warnings that are logged are the same.
  have hwarnings : { c with output := some (.ofText word) }.warnings = c.warnings := by
    unfold Settings.warnings
    rw [problems_output hformat]
  have hsame : tabulate env { c with output := some (.ofText word) } = tabulate env c :=
    tabulate_congr rfl rfl rfl
  rw [hwarnings, hsame] at htabulate'
  exact (htabulate'.unique htabulate).1

/-- A job that is read from the same files twice is the same. -/
theorem ReadFrom.unique {depth : Nat} {P : FileSystem → Prop} (hP : ∀ fs', P fs' → fs' = fs) {q q' : Path}
    {job job' : Job} (h : ReadFrom depth P q job) (h' : ReadFrom depth P q' job') (hq : q' = q) :
    job' = job := by
  subst hq
  cases (h.loadJob hP).symm.trans (h'.loadJob hP)
  rfl

/-- Runs without a log file come to the same table at any time. -/
theorem comparisonOf_unique (hfile : r.logging.file = none)
    {left right left' right' : Job} (h : Basis env.yaml env.depth env.room fs r c left right)
    (h' : Basis env.yaml env.depth env.room fs { r with output := some word } c' left' right') :
    c' = { c with output := some (.ofText word) } ∧
      comparisonOf c' left' right' = comparisonOf c left right := by
  -- Without a log file there is a single state of the files that can be read.
  have hunlogged : ∀ fs', Log.SameButLog fs r.logging fs' → fs' = fs := fun fs' h => h.unlogged hfile
  obtain ⟨fs₁, entries, hsame, hmapping, hsettings⟩ := h.settings
  obtain ⟨fs₂, entries', hsame', hmapping', hsettings'⟩ := h'.settings
  obtain rfl : entries' = entries := by
    rw [hunlogged fs₁ hsame] at hmapping
    rw [hunlogged fs₂ hsame'] at hmapping'
    cases hmapping.symm.trans hmapping'
    rfl
  obtain rfl := settings_output hsettings hsettings'
  obtain ⟨q₁, hq₁, hleft⟩ := h.leftRead
  obtain ⟨q₁', hq₁', hleft'⟩ := h'.leftRead
  obtain ⟨q₂, hq₂, hright⟩ := h.rightRead
  obtain ⟨q₂', hq₂', hright'⟩ := h'.rightRead
  have hsameLeft : left' = left :=
    hleft.unique hunlogged hleft' (Option.some.inj (hq₁'.symm.trans hq₁))
  have hsameRight : right' = right :=
    hright.unique hunlogged hright' (Option.some.inj (hq₂'.symm.trans hq₂))
  rw [hsameLeft, hsameRight]
  exact ⟨rfl, rfl⟩

/-! ### The same text -/

/-- What one run prints is what the other writes, but for the control sequences. -/
theorem printedAndWritten (henv : env.Strips IsSequence) (hfs : (fs.at? fs.here).isSome) {p : Path}
    {text : Text} {line line' : Option Text} {outcome outcome' : Outcome} {s₂ s₂' : Session}
    (hlogging : Log.Logging fs r.logging s') (hformat : c.format ≠ "table") (hnone : c.output = none)
    (htext : rendered c.format t = .ok text) (h : Delivered env c t s line s₂)
    (h' : Delivered { env with stamp } { c with output := some p } t s' line' s₂')
    (houtcome : outcome.printed = printedLine env line) (houtcome' : outcome'.files = s₂'.files) :
    ∃ written : String, text = written ∧ PrintedAndWritten env IsSequence written outcome outcome' p := by
  have hprinted : outcome.printed = env.plain (text ++ "\n") := by
    rw [houtcome]
    cases h with
    | reported format => exact absurd format hformat
    | printed format render output =>
      cases htext.symm.trans render
      rfl
    | written format render output => cases hnone.symm.trans output
  cases h' with
  | reported format => exact absurd format hformat
  | printed format render output => cases output
  | written format render output files =>
    cases output
    cases htext.symm.trans render
    have hwriting := FileSystem.writeText_spec (isSome_base hfs hlogging (p.slashes ≠ 0)) text
    rw [files] at hwriting
    cases hwriting with
    | @written _ written _ _ encoded _ _ file =>
      refine ⟨written, encoded, ?_, ?_, ?_⟩
      · rw [houtcome']
        exact file
      · rw [hprinted, encoded]
      · -- The line end is not part of a sequence.
        rw [hprinted, encoded, henv.plain, Text.toList_append,
          show ("\n" : Text).toList = [.char '\n'] from rfl, Text.contains_append_newline henv.line]

/-! ### Main statement -/

/-- The output file makes no difference to the comparison. -/
theorem same_comparison (hstamp : stamp = env.stamp ∨ r.logging.file = none) (h : Tabulated env fs r c t s)
    (h' : Tabulated { env with stamp } fs { r with output := some word } c' t' s')
    (hformat : c.format ≠ "table") : c' = { c with output := some (.ofText word) } ∧ t' = t := by
  rcases hstamp with rfl | hfile
  · exact table_unique h h' hformat
  · obtain ⟨left, right, hbasis, rfl⟩ := basis_of_tabulated h
    obtain ⟨left', right', hbasis', rfl⟩ := basis_of_tabulated h'
    exact comparisonOf_unique hfile hbasis hbasis'

/-- A comparison that ends well was made, and its output was delivered. -/
theorem exists_delivered (hasks : Asks env fs args r) (hcode : (run env fs args).exitCode = 0) :
    ∃ c t s line s', Tabulated env fs r c t s ∧ Delivered env c t s line s' ∧
      run env fs args = ⟨0, printedLine env line, s'.console, s'.files, none⟩ := by
  rcases yields_or_stops (compare env r) (.start fs) with ⟨line, s', hyields⟩ | ⟨e, s', hstops⟩
  · obtain ⟨c, t, s, htabulated, hdelivered⟩ := yields_compare.mp hyields
    rcases told_or_untold env line with ⟨printed, hprinted⟩ | ⟨fault, hprinted⟩
    · exact ⟨c, t, s, line, s', htabulated, hdelivered, hprinted ▸ run_of_told hasks hyields hprinted⟩
    · rw [run_of_untold hasks hyields hprinted] at hcode
      cases hcode
  · rw [run_of_stops hasks hstops] at hcode
    exact absurd hcode (exitCode_ofWork_error e s')

/-- **What is printed without an output file is what is written with one**, if there is no control
sequence in it.  The runs may be at different times if there is no log file: a log file could be read as
one of the jobs. -/
theorem printed_eq_written_iff (henv : env.Strips IsSequence) (hfs : (fs.at? fs.here).isSome)
    (hasks : Asks env fs args r) (hasks' : Asks env fs args' { r with output := some word })
    (hstamp : stamp = env.stamp ∨ r.logging.file = none) (hcode : (run env fs args).exitCode = 0)
    (hcode' : (run { env with stamp } fs args').exitCode = 0) :
    ∃ c left right, Basis env.yaml env.depth env.room fs r c left right ∧
      (c.format ≠ "table" → c.output = none → ∃ text : String,
        IsOutput (comparisonOf c left right) c.format text ∧
        PrintedAndWritten env IsSequence text (run env fs args) (run { env with stamp } fs args')
          (.ofText word)) := by
  obtain ⟨c, t, s, line, s₂, htabulated, hdelivered, hrun⟩ := exists_delivered hasks hcode
  -- The words are read in the same way at any time.
  have hasksLater : Asks { env with stamp } fs args' { r with output := some word } := hasks'
  obtain ⟨c', t', s', line', s₂', htabulated', hdelivered', hrun'⟩ := exists_delivered hasksLater hcode'
  obtain ⟨left, right, hbasis, ht⟩ := basis_of_tabulated htabulated
  refine ⟨c, left, right, hbasis, fun hformat hnone => ?_⟩
  obtain ⟨rfl, rfl⟩ := same_comparison hstamp htabulated htabulated' hformat
  obtain ⟨text, htext⟩ := exists_rendered c.format t'
  obtain ⟨-, -, -, hformats⟩ := errors_eq_nil_iff.mp hbasis.errors
  have houtput : IsOutput (comparisonOf c left right) c.format text := by
    rw [← ht]
    exact isOutput_of_rendered hformats hformat htext
  obtain ⟨written, rfl, hboth⟩ := printedAndWritten henv hfs (logging_tabulated htabulated') hformat hnone htext
    hdelivered hdelivered' (congrArg Outcome.printed hrun) (congrArg Outcome.files hrun')
  exact ⟨written, houtput, hboth⟩

end

/-! ### Two pairs of runs -/

/-- The names of the columns are all that is printed and all that is written. -/
theorem printed_eq_written_iff_self :
    let fs := onlyRun (Text.asciiFile emptyRunText)
    let printing := run (.standard "") fs (selfArgs none)
    let writing := run (.standard "") fs (selfArgs (some "out.csv"))
    printing.exitCode = 0 ∧ writing.exitCode = 0 ∧
      writing.files.find? ⟨0, ["out.csv"]⟩ = some (.file exportHeader.toUTF8) ∧
      printing.printed = exportHeader ++ "\n" := by
  intro fs printing writing
  have hfs : (fs.at? fs.here).isSome := rfl
  have hcode : printing.exitCode = 0 :=
    congrArg Outcome.exitCode (run_selfArgs "" readRun_emptyRunText rfl exported_empty)
  have hcode' : writing.exitCode = 0 :=
    congrArg Outcome.exitCode (run_selfArgs_output "" readRun_emptyRunText rfl exported_empty)
  obtain ⟨c, left, right, hbasis, hagree⟩ :=
    printed_eq_written_iff (strips_standard "") hfs (asks_selfArgs "") (asks_selfArgs_output "") (.inl rfl)
      hcode hcode'
  obtain ⟨rfl, rfl, rfl⟩ := basis_self selfSettings_none readRun_emptyRunText hbasis
  obtain ⟨text, hisOutput, hboth⟩ := hagree (by decide) rfl
  have htext := Text.ofString_inj.mp (hisOutput.eq_exported.trans exported_empty)
  rw [htext] at hboth
  have hnone : ¬ Text.HasSequence (exportHeader : Text).toList :=
    Text.not_hasSequence_of_plain (by decide +kernel)
  exact ⟨hcode, hcode', hboth.written, hboth.same.mpr hnone⟩

/-- The name of a test that starts with a control sequence. -/
def colouredName : String := "\x1b[31mT"

theorem readRun_colouredTest :
    readRun Json.usualDepth (onlyRun (Text.asciiFile (testRunText "\\u001b[31mT"))) runPath =
      .ok (runOfTest colouredName) :=
  readRun_testRunText (by decide +kernel) (by cbv)

/-- Its export is a string with a control sequence in it. -/
theorem exists_exported_colouredTest : ∃ text : String,
    (comparisonOf (selfSettings none) [runOfTest colouredName] [runOfTest colouredName]).exported = text ∧
      Text.HasSequence (text : Text).toList := by
  let t := comparisonOf (selfSettings none) [runOfTest colouredName] [runOfTest colouredName]
  have hplain : ∀ n, .half n ∉ t.exported.toList := by
    intro n hn
    simpa using half_mem_exported_runOfTest.mp hn
  obtain ⟨text, htext⟩ := Text.exists_string_iff.mpr hplain
  have hname : Text.HasSequence (colouredName : Text).toList :=
    Text.hasSequence_of_sequence
      (by decide : Text.afterSequence? (colouredName : Text).toList = some [.char 'T'])
  have hkey : ⟨colouredName, "", "", "", "P"⟩ ∈ t.keys := List.mem_singleton_self _
  refine ⟨text, htext, ?_⟩
  rw [← htext]
  exact Table.hasSequence_exported hkey List.mem_cons_self hname

/-- The control sequence is written, but it is not printed. -/
theorem colouredTest_not_printed :
    let fs := onlyRun (Text.asciiFile (testRunText "\\u001b[31mT"))
    let printing := run (.standard "") fs (selfArgs none)
    let writing := run (.standard "") fs (selfArgs (some "out.csv"))
    printing.exitCode = 0 ∧ writing.exitCode = 0 ∧
      ∃ text : String, writing.files.find? ⟨0, ["out.csv"]⟩ = some (.file text.toUTF8) ∧
        printing.printed ≠ text ++ "\n" := by
  intro fs printing writing
  obtain ⟨text, htext, hsequence⟩ := exists_exported_colouredTest
  have hprinting : printing = _ := run_selfArgs "" readRun_colouredTest rfl htext
  have hwriting : writing = _ := run_selfArgs_output "" readRun_colouredTest rfl htext
  rw [hprinting, hwriting]
  refine ⟨rfl, rfl, text, (put_onlyRun _).2, ?_⟩
  show Text.unadorned (text ++ "\n") ≠ text ++ "\n"
  rw [ne_eq, Text.unadorned_eq_self_iff, not_not, Text.toList_append]
  exact hsequence.mono (List.prefix_append _ _).isInfix

end BenchCompare.Command
