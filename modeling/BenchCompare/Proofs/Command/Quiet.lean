import BenchCompare.Proofs.Command.Course
import BenchCompare.Proofs.Command.Platform
import BenchCompare.Proofs.Csv.Halves

/-! # Quiet comparisons

  A comparison of two run files that is quiet and has neither a configuration file
  nor a log file goes on as it started: it shows nothing and changes no file before
  its output is delivered.

  The smallest such comparison is that of a run file with itself; it serves as an
  example.

  Main statement: `tabulated_quiet`.
-/

namespace BenchCompare.Command

open Log (Session)

/-- How a quiet comparison without a log file sets up logging. -/
def quietSetup : Log.Setup := ⟨false, true, none⟩

/-- The console shows warnings only, and has shown none. -/
def quietSession (fs : FileSystem) : Session := ⟨[.console .warning], "", fs⟩

/-- A record that a quiet comparison does not show: it is no report, and no warning either. -/
structure Faint (record : Log.Record) : Prop where
  logger : record.logger ≠ Log.reportName
  level : record.level.rank < Log.Level.warning.rank

section

variable {env : Platform} {fs : FileSystem} {r : Request} {c : Settings} {p q : Path} {left right : Run}

theorem Faint.shown {record : Log.Record} (h : Faint record) : record.shown .warning = "" := by
  have hreport : record.isReport = false := decide_eq_false h.logger
  unfold Log.Record.shown
  rw [hreport, if_neg Bool.false_ne_true, if_neg (Int.not_le.mpr h.level)]

/-- A faint record leaves a quiet session as it is, whether it is dropped or not. -/
theorem log_quietSession {record : Log.Record} (h : Faint record) :
    (quietSession fs).log env.toContext record = quietSession fs := by
  unfold Session.log
  rw [if_neg (show ¬ (quietSession fs).sinks.isEmpty = true from Bool.false_ne_true)]
  split
  · show (quietSession fs).tell (record.shown .warning) = quietSession fs
    rw [h.shown]
    rfl
  · rfl

theorem logAll_quietSession {rs : List Log.Record} (h : ∀ record ∈ rs, Faint record) :
    (quietSession fs).logAll env.toContext rs = quietSession fs := by
  unfold Session.logAll
  induction rs with
  | nil => rfl
  | cons record rs ih =>
    obtain ⟨hrecord, hrest⟩ := List.forall_mem_cons.mp h
    rw [List.foldl_cons, log_quietSession hrecord]
    exact ih hrest

theorem logAll_quietSession_singleton {record : Log.Record} (h : Faint record) :
    (quietSession fs).logAll env.toContext [record] = quietSession fs :=
  logAll_quietSession (List.forall_mem_singleton.mpr h)

/-! ### Records of a comparison -/

theorem faint_loadedRunRecord (p : Path) (run : Run) : Faint (loadedRunRecord p run) :=
  ⟨(by decide : loaderName ≠ Log.reportName), (by decide : Log.Level.debug.rank < Log.Level.warning.rank)⟩

theorem faint_loadedJobRecord (p : Path) (job : Job) : Faint (loadedJobRecord p job) :=
  ⟨(by decide : loaderName ≠ Log.reportName), (by decide : Log.Level.info.rank < Log.Level.warning.rank)⟩

theorem faint_comparedRecord (t : Table) : Faint (comparedRecord t) :=
  ⟨(by decide : Log.childName "cli" ≠ Log.reportName),
    (by decide : Log.Level.info.rank < Log.Level.warning.rank)⟩

theorem faint_ingest (min : Int) (side : Side) (items : List (Text × DataItem)) (t : Table) :
    ∀ record ∈ (t.ingest min side items).log, Faint record := by
  fun_induction Table.ingest min side items t with
  | case1 => nofun
  | case2 t test item rest _ ih => exact ih
  | case3 t test item rest _ later ih =>
    refine List.forall_mem_cons.mpr ⟨?_, ih⟩
    exact ⟨(by decide : Log.rootName ≠ Log.reportName),
      (by decide : Log.Level.debug.rank < Log.Level.warning.rank)⟩
  | case4 => nofun

theorem faint_ofJobs (left right : Job) (min : Int) :
    ∀ record ∈ (Table.ofJobs left right min).log, Faint record := by
  have hleft := faint_ingest min .left (Job.items left) .empty
  have hright := faint_ingest min .right (Job.items right) (Table.empty.addJob min .left left).table
  have hflattened : ∀ t, Faint (flattenedRecord left right t) := fun t =>
    ⟨(by decide : Log.rootName ≠ Log.reportName),
      (by decide : Log.Level.debug.rank < Log.Level.warning.rank)⟩
  unfold Table.ofJobs
  dsimp only
  split
  · exact hleft
  · split
    · exact List.forall_mem_append.mpr ⟨hleft, hright⟩
    · refine List.forall_mem_append.mpr ⟨List.forall_mem_append.mpr ⟨hleft, hright⟩, ?_⟩
      exact List.forall_mem_singleton.mpr (hflattened _)

/-! ### Stages -/

theorem yields_loadSide_quiet (hfiles : jobFiles fs p = ⟨[], .ok [p]⟩)
    (hrun : readRun env.depth fs p = .ok left) :
    Yields (loadSide env (some p)) (quietSession fs) [left] (quietSession fs) := by
  have hloaded : loadRun env.depth fs p = ⟨[loadedRunRecord p left], .ok left⟩ := by
    unfold loadRun
    rw [hrun]
  have hone : Yields (loaded env (loadRun env.depth fs p)) (quietSession fs) left (quietSession fs) := by
    rw [yields_loaded, hloaded]
    exact ⟨rfl, (logAll_quietSession_singleton (faint_loadedRunRecord p left)).symm⟩
  have hall : Yields (loadFiles env [p]) (quietSession fs) [left] (quietSession fs) := by
    unfold loadFiles
    rw [yields_get_bind, yields_bind]
    exact ⟨left, _, hone, yields_pure.mpr ⟨rfl, rfl⟩⟩
  have hpaths : Yields (loaded env (jobFiles fs p)) (quietSession fs) [p] (quietSession fs) := by
    rw [yields_loaded, hfiles]
    exact ⟨rfl, (logAll_quietSession (List.forall_mem_nil _)).symm⟩
  unfold loadSide
  dsimp only
  rw [yields_get_bind, yields_bind]
  refine ⟨[p], _, hpaths, yields_bind.mpr ⟨[left], _, hall, ?_⟩⟩
  rw [yields_record_bind, logAll_quietSession_singleton (faint_loadedJobRecord p [left])]
  exact yields_pure.mpr ⟨rfl, rfl⟩

/-- A quiet comparison of two run files comes to a table without a trace. -/
theorem tabulated_quiet (hsetup : r.logging = quietSetup) (hconfig : r.config = none)
    (hsettings : r.settings env.room [] = .ok c) (herrors : c.errors = []) (hwarnings : c.warnings = [])
    (hleft : c.leftJob = some p ∧ jobFiles fs p = ⟨[], .ok [p]⟩ ∧ readRun env.depth fs p = .ok left)
    (hright : c.rightJob = some q ∧ jobFiles fs q = ⟨[], .ok [q]⟩ ∧
      readRun env.depth fs q = .ok right)
    (hlegible : (Table.ofJobs [left] [right] c.minCount).stoppedBy = none) :
    Tabulated env fs r c (comparisonOf c [left] [right]) (quietSession fs) := by
  obtain ⟨hleftJob, hleftFiles, hleftRun⟩ := hleft
  obtain ⟨hrightJob, hrightFiles, hrightRun⟩ := hright
  have hstart : Started fs r (quietSession fs) := by
    unfold Started
    rw [hsetup]
    rfl
  have hmapping : r.mapping env.yaml (quietSession fs).files = .ok [] := by
    unfold Request.mapping
    rw [hconfig]
  have hworded : c.canBeWorded = true := by
    obtain ⟨-, -, hcount, -⟩ := errors_eq_nil_iff.mp herrors
    unfold Settings.canBeWorded
    rw [decide_eq_true hcount, Bool.true_or]
  have hsettle : Yields (settle env r) (quietSession fs) c (quietSession fs) := by
    refine yields_settle.mpr ⟨[], hmapping, hsettings, hworded, herrors, ?_⟩
    have hnone : (quietSession fs).logAll env.toContext [] = quietSession fs :=
      logAll_quietSession (List.forall_mem_nil _)
    -- There is nothing to warn of, neither in the mapping nor in the settings.
    rw [hwarnings, List.map_nil, show Entries.warnings [] = [] from rfl, hnone, hnone]
  have hloaded : Loaded env c (quietSession fs) [left] [right] (quietSession fs) := by
    refine ⟨quietSession fs, ?_, ?_⟩
    · rw [hleftJob]
      exact yields_loadSide_quiet hleftFiles hleftRun
    · rw [hrightJob]
      exact yields_loadSide_quiet hrightFiles hrightRun
  refine ⟨quietSession fs, ⟨quietSession fs, hstart, hsettle⟩, yields_tabulate.mpr ?_⟩
  refine ⟨[left], [right], quietSession fs, hloaded, hlegible, rfl, ?_⟩
  rw [logAll_quietSession (faint_ofJobs [left] [right] c.minCount),
    logAll_quietSession_singleton (faint_comparedRecord _)]

end

/-! ### A run file compared with itself -/

/-- The words that ask for a quiet comparison of a run file with itself, as comma-separated values, with an
output file or without one. -/
def selfArgs : Option Text → List Text
  | none => ["compare", "run.json", "run.json", "-q", "--format", "csv"]
  | some word => ["compare", "run.json", "run.json", "-q", "--format", "csv", "-o", word]

/-- These words, taken apart. -/
def selfWords : Option Text → Words CompareOption
  | none => ⟨[(.quiet, none), (.format, some "csv")], ["run.json", "run.json"]⟩
  | some word => ⟨[(.quiet, none), (.format, some "csv"), (.output, some word)], ["run.json", "run.json"]⟩

/-- What they ask for. -/
def selfRequest (output : Option Text) : Request :=
  ⟨some "run.json", some "run.json", none, none, some "csv", output, false, true, none⟩

/-- The settings that this comes to. -/
def selfSettings (output : Option Path) : Settings := ⟨some runPath, some runPath, 10, "csv", output⟩

section

variable {env : Platform} {content : ByteArray} {run : Run} {output : Option Text} {p : Option Path}

theorem anyPath_eq_ok {fs : FileSystem} {path : Text} (htext : FileSystem.refusal? path = none)
    (hmay : (fs.existsAsWritten path && !fs.mayRead (Path.ofText path)) = false) (hint : String) :
    CommandLine.anyPath fs hint path = .ok path := by
  unfold CommandLine.anyPath
  rw [htext]
  exact if_neg (by rw [hmay]; exact Bool.false_ne_true)

theorem existingPath_onlyRun (hint : String) :
    CommandLine.existingPath (onlyRun content) hint "run.json" = .ok "run.json" := by
  have hany : CommandLine.anyPath (onlyRun content) hint "run.json" = .ok "run.json" :=
    anyPath_eq_ok (by cbv) (by cbv) hint
  have hexists : (onlyRun content).existsAsWritten "run.json" = true := by cbv
  unfold CommandLine.existingPath
  rw [hany]
  simp only [bind, Except.bind, hexists, if_true]
  rfl

theorem choice_csv (hint : String) : CommandLine.choice outputFormats hint "csv" = .ok "csv" :=
  if_pos (by decide)

theorem request_selfWords
    (h : ∀ word, output = some word → ∀ hint, CommandLine.anyPath (onlyRun content) hint word = .ok word) :
    CommandLine.request (onlyRun content) (selfWords output) = .ok (selfRequest output) := by
  unfold CommandLine.request
  cases output with
  | none =>
    have hgiven : (selfWords none).given = [.quiet, .format] := by decide
    rw [hgiven]
    simp [selfWords, selfRequest, Words.value?, Words.has, CommandLine.check, existingPath_onlyRun, choice_csv]
    rfl
  | some word =>
    have hgiven : (selfWords (some word)).given = [.quiet, .format, .output] := rfl
    rw [hgiven]
    simp [selfWords, selfRequest, Words.value?, Words.has, CommandLine.check, existingPath_onlyRun, choice_csv,
      h word rfl]
    rfl

theorem asks_selfArgs (stamp : String) :
    Asks (.standard stamp) (onlyRun content) (selfArgs none) (selfRequest none) :=
  CommandLine.read_eq_request (selfWords none) (by decide +kernel) (by decide +kernel) rfl
    (request_selfWords nofun)

theorem asks_selfArgs_output (stamp : String) :
    Asks (.standard stamp) (onlyRun content) (selfArgs (some "out.csv")) (selfRequest (some "out.csv")) := by
  refine CommandLine.read_eq_request (selfWords (some "out.csv")) (by decide +kernel) (by decide +kernel) rfl
    (request_selfWords ?_)
  rintro word ⟨⟩
  exact anyPath_eq_ok (by cbv) (by cbv)

theorem asks_selfArgs_missing (stamp : String) :
    Asks (.standard stamp) (onlyRun content) (selfArgs (some "missing/out.csv"))
      (selfRequest (some "missing/out.csv")) := by
  refine CommandLine.read_eq_request (selfWords (some "missing/out.csv")) (by decide +kernel)
    (by decide +kernel) rfl (request_selfWords ?_)
  rintro word ⟨⟩
  exact anyPath_eq_ok (by cbv) (by cbv)

theorem jobFiles_onlyRun : jobFiles (onlyRun content) runPath = ⟨[], .ok [runPath]⟩ := by cbv

/-- A run file that can be read and compared comes to a table, whatever the output file is. -/
theorem tabulated_self (env : Platform)
    (hsettings : (selfRequest output).settings env.room [] = .ok (selfSettings p))
    (hrun : readRun env.depth (onlyRun content) runPath = .ok run)
    (hlegible : (Table.ofJobs [run] [run] 10).stoppedBy = none) :
    Tabulated env (onlyRun content) (selfRequest output) (selfSettings p)
      (comparisonOf (selfSettings p) [run] [run]) (quietSession (onlyRun content)) := by
  have herrors : (selfSettings p).errors = [] :=
    errors_eq_nil_iff.mpr ⟨Option.some_ne_none _, Option.some_ne_none _, (by decide : (0 : Int) ≤ 10),
      (by decide : ("csv" : Text) ∈ outputFormats)⟩
  have hwarnings : (selfSettings p).warnings = [] := by
    simp [Settings.warnings, Settings.problems, Settings.problemIf, selfSettings, outputFormats]
  exact tabulated_quiet rfl rfl hsettings herrors hwarnings ⟨rfl, jobFiles_onlyRun, hrun⟩
    ⟨rfl, jobFiles_onlyRun, hrun⟩ hlegible

theorem selfSettings_none :
    (selfRequest none).settings Value.usualRoom [] = .ok (selfSettings none) := by cbv

theorem selfSettings_output : (selfRequest (some "out.csv")).settings Value.usualRoom [] =
    .ok (selfSettings (some ⟨0, ["out.csv"]⟩)) := by cbv

/-- Without an output file, the export is printed. -/
theorem run_selfArgs (stamp : String) (hrun : readRun Json.usualDepth (onlyRun content) runPath = .ok run)
    (hlegible : (Table.ofJobs [run] [run] 10).stoppedBy = none) {text : String}
    (htext : (comparisonOf (selfSettings none) [run] [run]).exported = text) :
    Command.run (.standard stamp) (onlyRun content) (selfArgs none) =
      ⟨0, Text.unadorned (text ++ "\n"), "", onlyRun content, none⟩ := by
  have htabulated := tabulated_self (.standard stamp) selfSettings_none hrun hlegible
  have hyields := yields_compare.mpr
    ⟨_, _, _, htabulated, .printed (by decide : ("csv" : Text) ≠ "table") rfl rfl⟩
  have hline : ∃ line : String, (text ++ "\n" : Text) = line := ⟨text ++ "\n", (Text.ofString_append text "\n").symm⟩
  obtain ⟨printed, hprinted⟩ := Text.exists_string_unadorned hline
  rw [hprinted]
  refine run_of_told (asks_selfArgs stamp) hyields ?_
  rw [← hprinted, ← htext]
  rfl

theorem target_onlyRun : (onlyRun content).target ⟨0, ["out.csv"]⟩ = .ok ["out.csv"] := by cbv

/-- With an output file, it is written. -/
theorem run_selfArgs_output (stamp : String)
    (hrun : readRun Json.usualDepth (onlyRun content) runPath = .ok run)
    (hlegible : (Table.ofJobs [run] [run] 10).stoppedBy = none) {text : String}
    (htext : (comparisonOf (selfSettings none) [run] [run]).exported = text) :
    Command.run (.standard stamp) (onlyRun content) (selfArgs (some "out.csv")) =
      ⟨0, "Exported to out.csv\n", "", (onlyRun content).put (.file text.toUTF8) ["out.csv"], none⟩ := by
  have hwritten : (onlyRun content).writeText ⟨0, ["out.csv"]⟩
      (comparisonOf (selfSettings none) [run] [run]).exported =
        ((onlyRun content).put (.file text.toUTF8) ["out.csv"], none) := by
    unfold FileSystem.writeText
    rw [target_onlyRun, htext, Text.encode_ofString]
  have htabulated := tabulated_self (.standard stamp) selfSettings_output hrun hlegible
  have hyields := yields_compare.mpr
    ⟨_, _, _, htabulated, .written (by decide : ("csv" : Text) ≠ "table") rfl rfl hwritten⟩
  refine run_of_told (asks_selfArgs_output stamp) hyields ?_
  exact (Text.unadorned_eq_self_iff "Exported to out.csv\n").mpr (Text.not_hasSequence_of_plain (by decide))

/-- If the export has a half in it, an empty file is left. -/
theorem run_selfArgs_halved (stamp : String)
    (hrun : readRun Json.usualDepth (onlyRun content) runPath = .ok run)
    (hlegible : (Table.ofJobs [run] [run] 10).stoppedBy = none) {fault : Text.EncodeFault}
    (htext : (comparisonOf (selfSettings none) [run] [run]).exported.encode = .error fault) :
    Command.run (.standard stamp) (onlyRun content) (selfArgs (some "out.csv")) =
      ⟨1, "", "", (onlyRun content).put (.file .empty) ["out.csv"], some (.output (.unencodable fault))⟩ := by
  have hfault : (onlyRun content).writeText ⟨0, ["out.csv"]⟩
      (comparisonOf (selfSettings none) [run] [run]).exported =
        ((onlyRun content).put (.file .empty) ["out.csv"], some (.unencodable fault)) := by
    unfold FileSystem.writeText
    rw [target_onlyRun]
    dsimp only
    rw [htext]
  have htabulated := tabulated_self (.standard stamp) selfSettings_output hrun hlegible
  have hstopped := Stopped.undelivered htabulated
    (.intro (by decide : ("csv" : Text) ≠ "table") rfl rfl hfault)
  exact run_of_stops (asks_selfArgs_output stamp) (stops_compare.mpr hstopped)

theorem find?_onlyRun : (onlyRun content).find? ⟨0, ["out.csv"]⟩ = none := by cbv

/-- The output file is found where it was put. -/
theorem put_onlyRun (bytes : ByteArray) :
    let fs := (onlyRun content).put (.file bytes) ["out.csv"]
    fs.resolve ⟨0, ["out.csv"]⟩ = .ok ["out.csv"] ∧ fs.find? ⟨0, ["out.csv"]⟩ = some (.file bytes) :=
  (FileSystem.put_spec rfl (FileSystem.target_eq_ok_iff.mp target_onlyRun).1 bytes).2

/-- Such a comparison is about this run on both sides. -/
theorem basis_self {yaml : YamlLoader} {depth room : Nat} {c : Settings} {left right : Job}
    (hsettings : (selfRequest output).settings room [] = .ok (selfSettings p))
    (hrun : readRun depth (onlyRun content) runPath = .ok run)
    (h : Basis yaml depth room (onlyRun content) (selfRequest output) c left right) :
    c = selfSettings p ∧ left = [run] ∧ right = [run] := by
  obtain ⟨fs', entries, -, hmapping, hc⟩ := h.settings
  cases hmapping
  cases hsettings.symm.trans hc
  have hjob : (loadJob depth (onlyRun content) runPath).result = .ok [run] := by
    rw [FileSystem.loadJob_result, jobFiles_onlyRun]
    show [runPath].mapM (readRun depth (onlyRun content)) = .ok [run]
    rw [List.mapM_cons, List.mapM_nil, hrun]
    rfl
  -- There is no log file, so both jobs were read from the files as they are.
  have hread : ∀ {job}, ReadFrom depth (Log.SameButLog (onlyRun content) quietSetup) runPath job →
      job = [run] := by
    intro job hfrom
    cases hjob.symm.trans (hfrom.loadJob fun fs' hsame => hsame.unlogged rfl)
    rfl
  obtain ⟨p, hp, hleft⟩ := h.leftRead
  obtain ⟨q, hq, hright⟩ := h.rightRead
  cases hp
  cases hq
  exact ⟨rfl, hread hleft, hread hright⟩

/-- A run file of ASCII characters is read as its text says. -/
theorem readRun_onlyRun {depth : Nat} {text : List Char} {j : Json}
    (htext : (text.all fun c => c.toNat < 0x80 && c ≠ '\r') = true) (hparse : Json.parse depth text = .ok j)
    (hdecode : Run.decode j = .ok run) : readRun depth (onlyRun (Text.asciiFile text)) runPath = .ok run := by
  have hread := FileSystem.readText_of_asciiFile (holdsBytes_onlyRun (Text.asciiFile text)) htext
  exact FileSystem.readRun_eq_ok_iff.mpr ⟨text, j, hread, hparse, hdecode⟩

/-- A run file without tests. -/
def emptyRunText : List Char := ['\x7b', '\x7d']

theorem readRun_emptyRunText : readRun Json.usualDepth (onlyRun (Text.asciiFile emptyRunText)) runPath = .ok [] :=
  readRun_onlyRun (j := .obj []) rfl (by cbv) rfl

/-- A run with one number, in a test of this name. -/
def runOfTest (test : Text) : Run := [(test, [⟨"", [⟨[("P", Float.ofNat 1)], .str "", []⟩], []⟩])]

/-- Its run file, if the name stands in JSON like this. -/
def testRunText (name : String) : List Char :=
  ("\x7b\"" ++ name ++ "\": [\x7b\"dataItems\": [\x7b\"data\": \x7b\"P\": 1\x7d\x7d]\x7d]\x7d").toList

theorem readRun_testRunText {name : String} {test : Text}
    (htext : ((testRunText name).all fun c => c.toNat < 0x80 && c ≠ '\r') = true)
    (hparse : Json.parse Json.usualDepth (testRunText name) = .ok (.obj [(test,
      .arr [.obj [("dataItems", .arr [.obj [("data", .obj [("P", .int 1)])]])]])])) :
    readRun Json.usualDepth (onlyRun (Text.asciiFile (testRunText name))) runPath = .ok (runOfTest test) :=
  readRun_onlyRun htext hparse rfl

/-- The labels of its only metric are the name of the test and that of the number. -/
theorem half_mem_exported_runOfTest {test : Text} {n : Fin 0x800} :
    .half n ∈ (comparisonOf (selfSettings none) [runOfTest test] [runOfTest test]).exported.toList ↔
      .half n ∈ test.toList := by
  let k : MetricKey := ⟨test, "", "", "", "P"⟩
  let left := Bucket.empty.push .left (Float.ofNat 1)
  have hentries : (comparisonOf (selfSettings none) [runOfTest test] [runOfTest test]).entries =
      [(k, (left.push .right (Float.ofNat 1)).summarise)] := by
    show (Table.summarise ⟨updateEntry k (.push .right (Float.ofNat 1)) [(k, left)]⟩).entries = _
    rw [updateEntry, if_pos rfl]
    rfl
  have hcomments : ((left.push .right (Float.ofNat 1)).summarise).comments = "" := rfl
  rw [Table.half_mem_exported_iff, hentries]
  simp [HasHalf, MetricKey.fields, hcomments, k]

/-- The export of a table without metrics: the names of the columns. -/
def exportHeader : String :=
  "test_name,verb,resource,subresource,percentile,n_left,avg_left,stdev_left,max_left,n_right,avg_right," ++
    "stdev_right,max_right,matched,comments\r\n"

theorem exported_empty : Table.empty.exported = exportHeader := by
  have hrows : Table.empty.exportRows = [exportColumns] := by
    simp [Table.exportRows, Table.sorted, Table.empty, sortByKey]
  unfold Table.exported
  rw [hrows, List.map_singleton]
  decide +kernel

end

end BenchCompare.Command
