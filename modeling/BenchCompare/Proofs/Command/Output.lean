import BenchCompare.Proofs.Command.Quiet
import BenchCompare.Proofs.Csv.Halves

/-! # What a run leaves in the files

  A comparison that is written to a file is there as a whole, and nothing else is
  changed but the log file.  A run that fails changes no other file either, with
  two exceptions.  Both are due to texts that cannot be encoded.

  * `IsOutput`: the text of a table in a format.
  * `LeftBehind`: what a comparison that was made has left in the files.
  * `Spoilt`: what the two exceptions have left there.

  Main statement: `output_written_on_success`, with a comparison behind it that is
  written to a file, and with one that leaves an empty file.
-/

namespace BenchCompare.Command

open Log (Session Logging LogPlace SameButLog)
open FileSystem (ChangesOnly)

/-- The text of a table in one of the formats that can be written to a file. -/
inductive IsOutput (t : Table) : Text → Text → Prop
  | statistics {text : Text} (statistics : t.statistics Layout.defaultPlaces = .ok text) :
      IsOutput t "stats" text
  | exported : IsOutput t "csv" t.exported

/-- Only a file, and the log file, has been changed; it lies at a path, and these are its bytes. -/
structure Replaced (fs : FileSystem) (r : Request) (p : Path) (content : ByteArray) (after : FileSystem) :
    Prop where
  /-- The file lies at the path. -/
  content : after.find? p = some (.file content)
  /-- Nothing else was changed but the log file. -/
  others : ∃ names, after.resolve p = .ok names ∧
    ChangesOnly (fun names' => LogPlace fs r.logging names' ∨ names' = names) fs after

/-- What a comparison that was made has left in the files. -/
inductive LeftBehind (fs : FileSystem) (r : Request) (c : Settings) (t : Table) (after : FileSystem) : Prop
  | nothing (unwritten : c.format = "table" ∨ c.output = none) (same : SameButLog fs r.logging after)
  | output {p : Path} {text : String} (output : c.output = some p) (isOutput : IsOutput t c.format text)
      (replaced : Replaced fs r p text.toUTF8 after) : LeftBehind fs r c t after

/-- What a comparison has left in the files that failed when its output file had been emptied. -/
inductive Spoilt (env : Platform) (fs : FileSystem) (r : Request) (c : Settings) (t : Table) :
    Failure → FileSystem → Prop
  /-- The output cannot be encoded, and the file is left empty. -/
  | emptied {p : Path} {text : Text} {fault : Text.EncodeFault} {after : FileSystem}
      (output : c.output = some p) (isOutput : IsOutput t c.format text)
      (halved : text.encode = .error fault) (replaced : Replaced fs r p .empty after) :
      Spoilt env fs r c t (.output (.unencodable fault)) after
  /-- The output is there, but the path of the file cannot be encoded and so cannot be printed. -/
  | unannounced {p : Path} {text : String} {fault : Text.EncodeFault} {after : FileSystem}
      (output : c.output = some p) (isOutput : IsOutput t c.format text)
      (halved : (env.plain ("Exported to " ++ p.text ++ "\n")).encode = .error fault)
      (replaced : Replaced fs r p text.toUTF8 after) :
      Spoilt env fs r c t (.printed fault) after

/-- What a run leaves in the files. -/
structure FilesLeft (env : Platform) (fs : FileSystem) (args : List Text) : Prop where
  /-- A command line that asks for no comparison changes nothing. -/
  unasked : (∀ r, ¬ Asks env fs args r) → (run env fs args).files = fs
  /-- A comparison that ends with another exit code than zero, or with a failure that has no message,
  changes nothing but the log file, unless it fails after its output file was emptied. -/
  unmade : ∀ r, Asks env fs args r →
    (run env fs args).exitCode ≠ 0 ∨ (run env fs args).failure.isSome →
      SameButLog fs r.logging (run env fs args).files ∨
        ∃ c left right failure, Basis env.yaml env.depth env.room fs r c left right ∧
          (run env fs args).failure = some failure ∧
          Spoilt env fs r c (comparisonOf c left right) failure (run env fs args).files
  /-- Any other comparison was made, and changes one file more at most. -/
  made : ∀ r, Asks env fs args r → (run env fs args).exitCode = 0 →
    ∃ c left right, Basis env.yaml env.depth env.room fs r c left right ∧
      LeftBehind fs r c (comparisonOf c left right) (run env fs args).files

section

variable {env : Platform} {fs fs' : FileSystem} {args : List Text} {r : Request} {c : Settings} {t : Table}
  {s s' : Session} {e : Stop} {line : Option Text} {text : Text} {p : Path}

theorem isOutput_of_rendered (hformat : c.format ∈ outputFormats) (htable : c.format ≠ "table")
    (h : rendered c.format t = .ok text) : IsOutput t c.format text := by
  unfold outputFormats at hformat
  simp only [List.mem_cons, List.not_mem_nil, or_false] at hformat
  rcases hformat with hformat | hformat | hformat
  · exact absurd hformat htable
  · rw [hformat] at h ⊢
    exact .statistics h
  · rw [hformat] at h ⊢
    cases h
    exact .exported

theorem IsOutput.eq_exported (h : IsOutput t "csv" text) : text = t.exported := by
  generalize hformat : ("csv" : Text) = format at h
  cases h with
  | statistics => exact absurd hformat (by decide)
  | exported => rfl

/-- Where relative paths start is there still. -/
theorem isSome_base (hfs : (fs.at? fs.here).isSome) (h : Logging fs r.logging s) (absolute : Bool) :
    (s.files.at? (s.files.base absolute)).isSome := by
  cases absolute with
  | true => rfl
  | false =>
    show (s.files.at? s.files.here).isSome
    rw [h.files.changes.here]
    exact h.files.changes.isSome_at? hfs

/-- First the log file was changed, and then the output file. -/
theorem replaced_of_changesOnly (hlogging : Logging fs r.logging s) {names : List Text} {content : ByteArray}
    (hchange : ChangesOnly (· = names) s.files fs') (hfound : fs'.resolve p = .ok names)
    (hfile : fs'.find? p = some (.file content)) : Replaced fs r p content fs' where
  content := hfile
  others := ⟨names, hfound, (hlogging.files.changes.mono fun _ => .inl).trans (hchange.mono fun _ => .inr)⟩

/-- The output is delivered at the end, and nothing else is changed then. -/
theorem leftBehind_of_delivered (hfs : (fs.at? fs.here).isSome) (hlogging : Logging fs r.logging s)
    (hformat : c.format ∈ outputFormats) (h : Delivered env c t s line s') :
    LeftBehind fs r c t s'.files := by
  cases h with
  | reported format => exact .nothing (.inl format) (hlogging.logAll env.toContext _).files
  | printed format render output => exact .nothing (.inr output) hlogging.files
  | @written text p fs' format render output files =>
    have hwriting := FileSystem.writeText_spec (isSome_base hfs hlogging (p.slashes ≠ 0)) text
    rw [files] at hwriting
    cases hwriting with
    | written _ encoded change found file =>
      have houtput := isOutput_of_rendered hformat format render
      rw [encoded] at houtput
      exact .output output houtput (replaced_of_changesOnly hlogging change found file)

/-- An output that was delivered, but whose line cannot be encoded, is there with a path that cannot be
printed, or no file was changed. -/
theorem spoilt_of_delivered (hfs : (fs.at? fs.here).isSome) (hlogging : Logging fs r.logging s)
    (hformat : c.format ∈ outputFormats) (h : Delivered env c t s line s') {fault : Text.EncodeFault}
    (hprinted : (printedLine env line).encode = .error fault) :
    SameButLog fs r.logging s'.files ∨ Spoilt env fs r c t (.printed fault) s'.files := by
  cases leftBehind_of_delivered hfs hlogging hformat h with
  | nothing _ same => exact .inl same
  | output output isOutput replaced =>
    cases h with
    | reported format => 
      rw [format] at isOutput
      cases isOutput
    | printed _ _ unwritten => exact absurd (output.symm.trans unwritten) (Option.some_ne_none _)
    | written format render output' files =>
      cases output.symm.trans output'
      exact .inr (.unannounced output isOutput hprinted replaced)

/-- An output that was not delivered has left an empty file, or no file was changed. -/
theorem spoilt_of_undelivered (env : Platform) (hfs : (fs.at? fs.here).isSome) (hlogging : Logging fs r.logging s)
    (hformat : c.format ∈ outputFormats) {fault : FileSystem.FileFault} (h : Undelivered c t s fault s') :
    SameButLog fs r.logging s'.files ∨ Spoilt env fs r c t (.output fault) s'.files := by
  obtain @⟨text, p, fs', fault, format, render, output, files⟩ := h
  have hwriting := FileSystem.writeText_spec (isSome_base hfs hlogging (p.slashes ≠ 0)) text
  rw [files] at hwriting
  cases hwriting with
  | refused => exact .inl hlogging.files
  | emptied _ halved change found file =>
    exact .inr (.emptied output (isOutput_of_rendered hformat format render) halved
      (replaced_of_changesOnly hlogging change found file))

theorem files_ofWork_error (e : Stop) (s : Session) : (Outcome.ofWork env (.error e) s).files = s.files := by
  unfold Outcome.ofWork
  cases e with
  | refused m => rfl
  | failed failure =>
    dsimp only
    split <;> rfl

theorem exitCode_ofWork_error (e : Stop) (s : Session) : (Outcome.ofWork env (.error e) s).exitCode ≠ 0 := by
  unfold Outcome.ofWork
  cases e with
  | refused m => exact Nat.succ_ne_zero 1
  | failed failure =>
    dsimp only
    split <;> exact Nat.succ_ne_zero 0

theorem files_of_unasked (h : ∀ r, ¬ Asks env fs args r) : (run env fs args).files = fs := by
  cases hread : env.read fs args with
  | request r => exact absurd hread (h r)
  | ended exitCode printed shown => rw [run_of_ended hread]
  | thrown e => rw [run_of_thrown hread]

/-- **The output file is written by a comparison that was made**, and there is nothing in it but the
output.  A run that fails changes it only if a text cannot be encoded. -/
theorem output_written_on_success (env : Platform) (args : List Text)
    (hfs : (fs.at? fs.here).isSome) : FilesLeft env fs args where
  unasked h := files_of_unasked h
  unmade r hasks h := by
    rcases yields_or_stops (compare env r) (.start fs) with ⟨line, s, hyields⟩ | ⟨e, s, hstops⟩
    · obtain ⟨c, t, s₂, htabulated, hdelivered⟩ := yields_compare.mp hyields
      obtain ⟨left, right, hbasis, rfl⟩ := basis_of_tabulated htabulated
      obtain ⟨-, -, -, hformat⟩ := errors_eq_nil_iff.mp hbasis.errors
      rcases told_or_untold env line with ⟨printed, hprinted⟩ | ⟨fault, hprinted⟩
      · rw [run_of_told hasks hyields hprinted] at h
        simp at h
      · rw [run_of_untold hasks hyields hprinted]
        have hlogging := logging_tabulated htabulated
        rcases spoilt_of_delivered hfs hlogging hformat hdelivered hprinted with hsame | hspoilt
        · exact .inl hsame
        · exact .inr ⟨c, left, right, _, hbasis, rfl, hspoilt⟩
    · rcases sameButLog_stopped (stops_compare.mp hstops) with hsame | hundelivered
      · rw [run_of_stops hasks hstops, files_ofWork_error]
        exact .inl hsame
      · obtain ⟨c, t, s₁, fault, htabulated, hundelivered, rfl⟩ := hundelivered
        obtain ⟨left, right, hbasis, rfl⟩ := basis_of_tabulated htabulated
        obtain ⟨-, -, -, hformat⟩ := errors_eq_nil_iff.mp hbasis.errors
        rw [run_of_stops hasks hstops]
        have hlogging := logging_tabulated htabulated
        rcases spoilt_of_undelivered env hfs hlogging hformat hundelivered with hsame | hspoilt
        · exact .inl (by rwa [files_ofWork_error])
        · exact .inr ⟨c, left, right, _, hbasis, rfl, hspoilt⟩
  made r hasks h := by
    rcases yields_or_stops (compare env r) (.start fs) with ⟨line, s, hyields⟩ | ⟨e, s, hstops⟩
    · obtain ⟨c, t, s₂, htabulated, hdelivered⟩ := yields_compare.mp hyields
      obtain ⟨left, right, hbasis, rfl⟩ := basis_of_tabulated htabulated
      obtain ⟨-, -, -, hformat⟩ := errors_eq_nil_iff.mp hbasis.errors
      rcases told_or_untold env line with ⟨printed, hprinted⟩ | ⟨fault, hprinted⟩
      · rw [run_of_told hasks hyields hprinted]
        exact ⟨c, left, right, hbasis,
          leftBehind_of_delivered hfs (logging_tabulated htabulated) hformat hdelivered⟩
      · rw [run_of_untold hasks hyields hprinted] at h
        cases h
    · rw [run_of_stops hasks hstops] at h
      exact absurd h (exitCode_ofWork_error e s)

end

/-- A run file without tests is compared with itself: the output file holds the names of the columns, and
the run file is as it was. -/
theorem output_written_on_success_self :
    let fs := onlyRun (Text.asciiFile emptyRunText)
    let after := run (.standard "") fs (selfArgs (some "out.csv"))
    (fs.at? fs.here).isSome ∧ after.exitCode = 0 ∧
      after.files.find? ⟨0, ["out.csv"]⟩ = some (.file exportHeader.toUTF8) ∧
      ChangesOnly (· = (["out.csv"] : List Text)) fs after.files := by
  intro fs after
  have hfs : (fs.at? fs.here).isSome := rfl
  have hrun : after = _ := run_selfArgs_output "" readRun_emptyRunText rfl exported_empty
  have hcode : after.exitCode = 0 := congrArg Outcome.exitCode hrun
  have hleft := output_written_on_success (.standard "") (selfArgs (some "out.csv")) hfs
  obtain ⟨c, left, right, hbasis, hbehind⟩ := hleft.made _ (asks_selfArgs_output "") hcode
  obtain ⟨rfl, rfl, rfl⟩ := basis_self selfSettings_output readRun_emptyRunText hbasis
  refine ⟨hfs, hcode, ?_⟩
  cases hbehind with
  | nothing unwritten =>
    rcases unwritten with hformat | houtput
    · exact absurd hformat (by decide)
    · cases houtput
  | output output isOutput replaced =>
    cases output
    obtain ⟨hcontent, names, hnames, hothers⟩ := replaced
    have htext := Text.ofString_inj.mp (isOutput.eq_exported.trans exported_empty)
    rw [htext] at hcontent
    refine ⟨hcontent, hothers.mono ?_⟩
    rintro names' (⟨p, hp, -⟩ | rfl)
    · cases hp
    · -- There is no log file, so this can only be the place of the output file.
      have hfound : after.files.resolve ⟨0, ["out.csv"]⟩ = .ok ["out.csv"] := by
        rw [hrun]
        exact (put_onlyRun _).1
      cases hnames.symm.trans hfound
      rfl

theorem readRun_halvedTest : readRun Json.usualDepth (onlyRun (Text.asciiFile (testRunText "\\ud800"))) runPath =
    .ok (runOfTest ⟨[.half 0]⟩) :=
  readRun_testRunText (by decide +kernel) (by cbv)

/-- A test is named by half a character: the comparison fails, and an empty output file is left. -/
theorem halvedTest_leaves_empty_file :
    let fs := onlyRun (Text.asciiFile (testRunText "\\ud800"))
    let after := run (.standard "") fs (selfArgs (some "out.csv"))
    fs.find? ⟨0, ["out.csv"]⟩ = none ∧ after.exitCode = 1 ∧
      (∃ fault, after.failure = some (.output (.unencodable fault))) ∧
      after.files.find? ⟨0, ["out.csv"]⟩ = some (.file .empty) := by
  intro fs after
  obtain ⟨fault, hfault⟩ := Text.exists_encode_error_iff.mpr
    ⟨0, half_mem_exported_runOfTest.mpr (List.mem_singleton_self (CodePoint.half 0))⟩
  have hrun : after = _ := run_selfArgs_halved "" readRun_halvedTest rfl hfault
  rw [hrun]
  exact ⟨find?_onlyRun, rfl, ⟨fault, rfl⟩, (put_onlyRun _).2⟩

end BenchCompare.Command
