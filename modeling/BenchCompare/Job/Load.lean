import BenchCompare.File.System
import BenchCompare.Json.Document
import BenchCompare.Log.Record
import BenchCompare.Run.Decode

/-!
# Loading jobs

  A run is one file that holds a JSON object.  A job is one such file, or a
  directory whose regular files named `*.json` are its runs, in the order of
  their names.  Each entry with such a name is first asked what it is, which
  fails if its path is too long, or if names may not be looked up in the
  directory.  A directory that may not be listed passes for one without runs.
  Loading stops at the first run that cannot be loaded.

  `depth` is how deep the containers of a JSON text may lie inside one another.
-/

namespace BenchCompare

/-! ### Faults -/

/-- Why a job cannot be loaded. -/
inductive LoadFault
  /-- There is no file for a run. -/
  | noRun (path : Path)
  /-- There is nothing for a job. -/
  | noJob (path : Path)
  /-- A file cannot be read as text. -/
  | unreadable (fault : FileSystem.FileFault)
  /-- A file is no JSON, for a cause at a line, a column and an index. -/
  | notJson (path : Path) (cause : Json.Cause) (line column index : Nat)
  /-- A file holds an integer with too many digits. -/
  | longInteger (digits : Nat)
  /-- A file holds containers inside one another to a depth that is not read. -/
  | tooDeep (container : String)
  /-- A file is JSON but no run. -/
  | notRun (path : Path) (fault : RunFault)
  deriving DecidableEq, Repr

/-- The wording of a fault. -/
def LoadFault.message : LoadFault → Text
  | noRun p => "Run file not found: " ++ p.text
  | noJob p => "Job path not found: " ++ p.text
  | unreadable fault => fault.message
  | notJson p cause line column index =>
    p.text ++ s!": invalid JSON: {cause.message}: line {line} column {column} (char {index})"
  | longInteger digits => Decimal.tooLongMessage digits
  | tooDeep container => Json.tooDeepMessage container
  | notRun p fault => fault.message p.text

/-! ### Runs -/

/-- What was logged, and what was loaded or why not. -/
structure Loading (α : Type) where
  /-- The records, in order. -/
  log : List Log.Record
  /-- The outcome. -/
  result : Except LoadFault α

/-- The logger of loading. -/
def loaderName : Text := Log.childName "loader"

variable (depth : Nat)

/-- The run in the text of a file. -/
def Run.parse (p : Path) (text : List Char) : Except LoadFault Run :=
  match Json.parse depth text with
  | .ok document => (Run.decode document).mapError (.notRun p)
  | .error (.longInteger digits) => .error (.longInteger digits)
  | .error (.tooDeep container) => .error (.tooDeep container)
  | .error (.malformed cause index) =>
    let (line, column) := Json.lineColumn text index
    .error (.notJson p cause line column index)

/-- The run in a file. -/
def readRun (fs : FileSystem) (p : Path) : Except LoadFault Run :=
  match fs.holds p with
  | .error fault => .error (.unreadable fault)
  | .ok false => .error (.noRun p)
  | .ok true =>
    -- Something is there, but it may be a directory, or no text.
    match fs.readText p with
    | .error fault => .error (.unreadable fault)
    | .ok text => Run.parse depth p text

/-- The record of a run that was loaded. -/
def loadedRunRecord (p : Path) (run : Run) : Log.Record :=
  ⟨.debug, loaderName, s!"Loaded {run.length} tests from " ++ p.text⟩

/-- Loads the run in a file. -/
def loadRun (fs : FileSystem) (p : Path) : Loading Run :=
  match readRun depth fs p with
  | .ok run => ⟨[loadedRunRecord p run], .ok run⟩
  | .error fault => ⟨[], .error fault⟩

/-- Loads runs, up to one that cannot be loaded. -/
def loadRuns (fs : FileSystem) : List Path → Loading Job
  | [] => ⟨[], .ok []⟩
  | p :: rest =>
    let first := loadRun depth fs p
    match first.result with
    | .error fault => ⟨first.log, .error fault⟩
    | .ok run =>
      let others := loadRuns fs rest
      ⟨first.log ++ others.log, others.result.map (run :: ·)⟩

/-! ### Jobs -/

/-- Whether a file of this name holds a run. -/
def isRunName (name : Text) : Bool := (".json" : Text).toList.isSuffixOf name.toList

/-- The fault of the first entry of a directory that is named as a run and does not say whether it is a
file. -/
def unasked? (fs : FileSystem) (p : Path) (directory : FileTree) : Option FileSystem.FileFault :=
  ((directory.names.filter isRunName).map p.child).findSome? fs.untold?

/-- The files of a directory that hold runs, in the order of their names. -/
def runFiles (p : Path) (directory : FileTree) : List Path :=
  ((directory.fileNames.filter isRunName).mergeSort fun a b => decide (a ≤ b)).map p.child

/-- The record of a directory without runs. -/
def noRunsRecord (p : Path) : Log.Record :=
  ⟨.warning, loaderName, "No run files (*.json) in " ++ p.text⟩

/-- The record of a job that was loaded. -/
def loadedJobRecord (p : Path) (job : Job) : Log.Record :=
  ⟨.info, loaderName, s!"Loaded {job.length} runs from " ++ p.text⟩

/-- The files of a job. -/
def jobFiles (fs : FileSystem) (p : Path) : Loading (List Path) :=
  match fs.holds p with
  | .error fault => ⟨[], .error (.unreadable fault)⟩
  | .ok false => ⟨[], .error (.noJob p)⟩
  | .ok true =>
    match (fs.find? p).filter FileTree.isDir with
    | some directory =>
      if !fs.mayRead p then ⟨[noRunsRecord p], .ok []⟩
      else
        match unasked? fs p directory with
        | some fault => ⟨[], .error (.unreadable fault)⟩
        | none =>
          let files := runFiles p directory
          ⟨if files.isEmpty then [noRunsRecord p] else [], .ok files⟩
    -- A path that is no directory is a run, whatever its name is.
    | none => ⟨[], .ok [p]⟩

/-- Loads a job. -/
def loadJob (fs : FileSystem) (p : Path) : Loading Job :=
  let files := jobFiles fs p
  match files.result with
  | .error fault => ⟨files.log, .error fault⟩
  | .ok paths =>
    let runs := loadRuns depth fs paths
    match runs.result with
    | .ok job => ⟨files.log ++ runs.log ++ [loadedJobRecord p job], .ok job⟩
    | .error fault => ⟨files.log ++ runs.log, .error fault⟩

/-- Loads two jobs, the second only if the first could be loaded. -/
def loadJobs (fs : FileSystem) (left right : Path) : Loading (Job × Job) :=
  let first := loadJob depth fs left
  match first.result with
  | .error fault => ⟨first.log, .error fault⟩
  | .ok job =>
    let second := loadJob depth fs right
    ⟨first.log ++ second.log, second.result.map (job, ·)⟩

end BenchCompare
