import BenchCompare.File.System
import BenchCompare.Log.Record

/-!
# Where log records go

  A setup says which records the console shows and which file takes them all.

  - The *console* shows the records of the report as they are, and others with
    their level, if they are grave enough.
  - The *file* takes every record with the time, its level and its logger.  It
    is made when logging is set up, and written at its end.  A line that cannot
    be encoded is not written; the console shows the trouble instead.

  Records below the level of details are dropped before they reach either.

  Only the latest setup counts.  Before the first one the console shows what is
  at least a warning, without its level.
-/

namespace BenchCompare.Log

/-! ### Setups -/

/-- How logging is set up. -/
structure Setup where
  /-- The console shows everything. -/
  verbose : Bool
  /-- The console shows warnings and the report only, unless it shows everything. -/
  quiet : Bool
  /-- The file that takes all records. -/
  file : Option Path
  deriving DecidableEq, Repr

/-- The least grave level that the console shows. -/
def Setup.least (s : Setup) : Level :=
  if s.verbose then .debug else if s.quiet then .warning else .info

/-- A place that takes records. -/
inductive Sink
  /-- The console, which shows records from a level on. -/
  | console (least : Level)
  /-- A file. -/
  | file (path : Path)
  deriving DecidableEq, Repr

/-! ### Records as text -/

/-- Whether a record carries the report. -/
def Record.isReport (r : Record) : Bool := r.logger = reportName

/-- Whether a record is not dropped once logging is set up. -/
def Record.isHeard (r : Record) : Bool := Level.debug.rank ≤ r.level.rank

/-- The name of a level, filled up with blanks to eight characters. -/
def Level.label (l : Level) : String := String.ofList (l.name.toList.rightpad 8 ' ')

/-- What the console shows of a record if it shows others from a level on.  The line ends at the start of a
report are left out. -/
def Record.shown (least : Level) (r : Record) : Text :=
  if r.isReport then ⟨r.message.toList.dropWhile (· = .char '\n')⟩ ++ "\n"
  else if least.rank ≤ r.level.rank then r.level.label ++ " " ++ r.message ++ "\n"
  else ""

/-- What the console shows of a record before logging is set up. -/
def Record.bare (r : Record) : Text :=
  if Level.warning.rank ≤ r.level.rank then r.message ++ "\n" else ""

/-- The line that a file takes for a record; `stamp` is the time. -/
def Record.line (stamp : String) (r : Record) : Text :=
  stamp ++ " " ++ r.level.label ++ " " ++ r.logger ++ ": " ++ r.message ++ "\n"

/-! ### Sessions -/

/-- What logging takes from outside. -/
structure Context where
  /-- The time. -/
  stamp : String
  /-- What is shown of a record that cannot be written. -/
  trouble : Record → Text

/-- What logging has left behind. -/
structure Session where
  /-- The sinks of the latest setup; there are none before the first one. -/
  sinks : List Sink
  /-- What the console has shown. -/
  console : Text
  /-- The files. -/
  files : FileSystem

namespace Session

/-- Nothing is set up. -/
def start (fs : FileSystem) : Session := ⟨[], "", fs⟩

/-- The session with the sinks of a setup, and the fault of its file if that cannot be made; the console
is a sink all the same.  A file is known by its path from the root on. -/
def configure (s : Setup) (session : Session) : Session × Option FileSystem.FileFault :=
  let console := Sink.console s.least
  match s.file.map session.files.absolute with
  | none => ({ session with sinks := [console] }, none)
  | some p =>
    match session.files.openText p with
    | .ok fs => ({ session with sinks := [console, .file p], files := fs }, none)
    | .error fault => ({ session with sinks := [console] }, some fault)

/-- The session after the console has shown a text. -/
def tell (text : Text) (session : Session) : Session := { session with console := session.console ++ text }

/-- The session after a sink has taken a record. -/
def take (context : Context) (r : Record) (session : Session) : Sink → Session
  | .console least => session.tell (r.shown least)
  | .file p =>
    match (r.line context.stamp).encode with
    | .error _ => session.tell (context.trouble r)
    | .ok line =>
      match session.files.appendText p line with
      | .ok fs => { session with files := fs }
      | .error _ => session

/-- The session after a record has been given to all sinks. -/
def log (context : Context) (r : Record) (session : Session) : Session :=
  -- Without a setup there is no sink, and only what is grave is shown.
  if session.sinks.isEmpty then session.tell r.bare
  else if r.isHeard then session.sinks.foldl (take context r) session
  else session

/-- The session after records have been given to all sinks. -/
def logAll (context : Context) (rs : List Record) (session : Session) : Session :=
  rs.foldl (fun session r => session.log context r) session

end Session

end BenchCompare.Log
