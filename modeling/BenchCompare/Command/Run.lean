import BenchCompare.Command.Platform
import BenchCompare.Comparison.Ingest
import BenchCompare.Comparison.Report
import BenchCompare.Job.Load
import BenchCompare.Settings.File

/-!
# Running the program

  A run takes the words of a command line and the files as they are.  It ends
  with an exit code, two texts and the files as they are then.  Misuse of the
  command line has the exit code two, and a mistake in a file that the user can
  mend has one and a message.  Any other failure has one and no message: it is
  part of the outcome.
-/

namespace BenchCompare.Command

/-! ### Failures -/

/-- Why a comparison cannot be made. -/
inductive Failure
  /-- The library for command lines lets an exception out. -/
  | library (e : Thrown)
  /-- The log file cannot be made. -/
  | logFile (fault : FileSystem.FileFault)
  /-- The configuration file gives no mapping. -/
  | config (fault : ConfigFault)
  /-- The mapping and the command line make no settings. -/
  | settings (fault : SettingsFault)
  /-- A problem with the settings cannot be put into words. -/
  | wordless
  /-- A job cannot be loaded. -/
  | load (fault : LoadFault)
  /-- A request count has too many digits. -/
  | count (digits : Nat)
  /-- The statistics cannot be written. -/
  | cell (fault : Layout.CellError)
  /-- The output file cannot be written. -/
  | output (fault : FileSystem.FileFault)
  /-- What is to be printed cannot be encoded. -/
  | printed (fault : Text.EncodeFault)

/-- The wording of a failure. -/
def Failure.message : Failure → Text
  | library e => e.message
  | logFile fault => fault.message
  | config fault => fault.message
  | settings fault => fault.message
  | wordless => Decimal.unwritableMessage
  | load fault => fault.message
  | count digits => Decimal.tooLongMessage digits
  | cell fault => fault.message
  | output fault => fault.message
  | printed fault => fault.message

/-- Whether a file that cannot be read is a mistake of the user: it is missing, or its path or its text is
a bad value. -/
def mendableFile : FileSystem.FileFault → Bool
  | .notFound _ | .nullCharacter | .unencodable _ | .encoding _ => true
  | .notDirectory _ | .isDirectory _ | .tooLong _ | .denied _ => false

/-- Whether a configuration file is a mistake of the user. -/
def mendableConfig : ConfigFault → Bool
  | .unreadable fault => mendableFile fault
  | .thrown e => e.isMistake
  | .noFile _ | .notYaml .. | .noMapping _ => true

/-- Whether values that make no settings are a mistake of the user. -/
def mendableSettings : SettingsFault → Bool
  | .booleanCount | .noCount _ | .unshown .longInteger => true
  | .noEntries _ | .noPath _ | .infiniteCount | .unshown .tooDeep => false

/-- Whether a job that cannot be loaded is a mistake of the user. -/
def mendableJob : LoadFault → Bool
  | .unreadable fault => mendableFile fault
  | .notRun _ (.badGroup _ .hugeInteger) | .tooDeep _ => false
  | .noRun _ | .noJob _ | .notJson .. | .longInteger _ | .notRun .. => true

/-- Whether a failure is a mistake of the user, who gets a message then. -/
def Failure.isMendable : Failure → Bool
  | config fault => mendableConfig fault
  | settings fault => mendableSettings fault
  | load fault => mendableJob fault
  | library _ | logFile _ | wordless | count _ | cell _ | output _ | printed _ => false

/-! ### Comparing -/

/-- Why a comparison stops. -/
inductive Stop
  /-- The command line is refused. -/
  | refused (message : Text)
  /-- It cannot be made. -/
  | failed (failure : Failure)

/-- Work that logs, changes files and may stop. -/
abbrev Work := ExceptT Stop (StateM Log.Session)

/-- Stops at a fault. -/
def orFail {ε α : Type} (failure : ε → Failure) : Except ε α → Work α
  | .ok a => pure a
  | .error fault => throw (.failed (failure fault))

variable (env : Platform)

/-- Logs records. -/
def record (rs : List Log.Record) : Work Unit := modify (·.logAll env.toContext rs)

/-- Sets up logging. -/
def setUp (s : Log.Setup) : Work Unit := do
  let (session, fault?) := (← get).configure s
  set session
  if let some fault := fault? then throw (.failed (.logFile fault))

/-- The mapping of the configuration file, if there is one. -/
def configured (config : Option Text) : Work Entries := do
  match config with
  | some path => orFail .config (loadConfig env.yaml (← get).files (Path.ofText path))
  | none => return []

/-- The record of a problem that does not stop the comparison. -/
def problemRecord (p : Problem) : Log.Record :=
  ⟨.warning, Log.childName "cli", p.setting.key ++ ": " ++ p.message⟩

/-- What is said about problems that stop the comparison. -/
def problemsText (ps : List Problem) : Text := Text.intercalate "; " (ps.map (·.message))

/-- The settings of a request. -/
def settle (r : Request) : Work Settings := do
  let resolution := resolve env.room (← configured env r.config) r.overrides
  record env resolution.log
  let c ← orFail .settings resolution.result
  if !c.canBeWorded then throw (.failed .wordless)
  record env (c.warnings.map problemRecord)
  if !c.errors.isEmpty then throw (.refused (problemsText c.errors))
  return c

/-- What was loaded, behind the records of it. -/
def loaded {α : Type} (loading : Loading α) : Work α := do
  record env loading.log
  orFail .load loading.result

/-- The runs in files.  Each is read from the files as the records of those before it have left them, since
the log may be one of them. -/
def loadFiles : List Path → Work Job
  | [] => return []
  | p :: rest => do
    let run ← loaded env (loadRun env.depth (← get).files p)
    return run :: (← loadFiles rest)

/-- The job of one of the settings. -/
def loadSide (p : Option Path) : Work Job := do
  match p with
  | none => return []
  | some p =>
    let job ← loadFiles env (← loaded env (jobFiles (← get).files p))
    record env [loadedJobRecord p job]
    return job

/-- The record of a comparison that was made. -/
def comparedRecord (t : Table) : Log.Record :=
  ⟨.info, Log.childName "cli", s!"Compared {t.size} metrics"⟩

/-- The table of a comparison. -/
def tabulate (c : Settings) : Work Table := do
  let left ← loadSide env c.leftJob
  let right ← loadSide env c.rightJob
  let ingestion := Table.ofJobs left right c.minCount
  record env ingestion.log
  if let some digits := ingestion.stoppedBy then throw (.failed (.count digits))
  let t := ingestion.table.summarise
  record env [comparedRecord t]
  return t

/-- The text of the output in a format other than the report. -/
def rendered (format : Text) (t : Table) : Except Layout.CellError Text :=
  if format = "stats" then t.statistics Layout.defaultPlaces else .ok t.exported

/-- Writes the output and gives the line that is printed, if one is. -/
def deliver (c : Settings) (t : Table) : Work (Option Text) := do
  if c.format = "table" then
    record env [t.reportRecord]
    return none
  let text ← orFail .cell (rendered c.format t)
  match c.output with
  | none => return some text
  | some p =>
    let session ← get
    let (fs, fault?) := session.files.writeText p text
    set { session with files := fs }
    if let some fault := fault? then throw (.failed (.output fault))
    return some ("Exported to " ++ p.text)

/-- Makes the comparison that is asked for and gives the line that is printed, if one is. -/
def compare (r : Request) : Work (Option Text) := do
  setUp r.logging
  let c ← settle env r
  let t ← tabulate env c
  deliver env c t

/-! ### Outcomes -/

/-- How a run ends. -/
structure Outcome where
  /-- The exit code. -/
  exitCode : Nat
  /-- What is printed. -/
  printed : Text
  /-- What is shown on the console. -/
  shown : Text
  /-- The files. -/
  files : FileSystem
  /-- The failure that has no message. -/
  failure : Option Failure

/-- What is printed of a line. -/
def printedLine (line : Option Text) : Text := line.elim "" fun text => env.plain (text ++ "\n")

/-- The end of a comparison. -/
def Outcome.ofWork (result : Except Stop (Option Text)) (session : Log.Session) : Outcome :=
  let shown := session.console
  match result with
  | .ok line =>
    let printed := printedLine env line
    match printed.encode with
    | .ok _ => ⟨0, printed, shown, session.files, none⟩
    | .error fault => ⟨1, "", shown, session.files, some (.printed fault)⟩
  | .error (.refused message) => ⟨2, "", shown ++ env.complaint message, session.files, none⟩
  | .error (.failed f) =>
    if f.isMendable then
      ⟨1, "", shown ++ env.plain ("Error: " ++ f.message ++ "\n"), session.files, none⟩
    else ⟨1, "", shown, session.files, some f⟩

/-- Runs the program with the words of its command line. -/
def run (fs : FileSystem) (args : List Text) : Outcome :=
  match env.read fs args with
  | .ended exitCode printed shown => ⟨exitCode, printed, shown, fs, none⟩
  | .thrown e => ⟨1, "", "", fs, some (.library e)⟩
  | .request r =>
    let (result, session) := (compare env r).run.run (.start fs)
    .ofWork env result session

end BenchCompare.Command
