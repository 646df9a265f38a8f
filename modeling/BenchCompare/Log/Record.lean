import BenchCompare.Text.Basic

/-!
# Log records

  Everything the program has to say while it works is a record with a level and
  the name of the logger that it was given to.
-/

namespace BenchCompare.Log

/-- How grave a record is.  Any integer is a level, and six of them have names. -/
structure Level where
  /-- The rank of the level, the grave ones above the others. -/
  rank : Int
  deriving DecidableEq, Repr

namespace Level

/-- The level of what asks for none. -/
def unset : Level := ⟨0⟩

/-- Details of interest to few. -/
def debug : Level := ⟨10⟩

/-- Progress. -/
def info : Level := ⟨20⟩

/-- Something odd that does not stop the work. -/
def warning : Level := ⟨30⟩

/-- A failure. -/
def error : Level := ⟨40⟩

/-- A failure that ends the program. -/
def critical : Level := ⟨50⟩

/-- The levels that have names. -/
def named : List (Level × String) :=
  [(unset, "NOTSET"), (debug, "DEBUG"), (info, "INFO"), (warning, "WARNING"), (error, "ERROR"),
    (critical, "CRITICAL")]

/-- The name of a level, which is made of its rank if it has none of its own. -/
def name (l : Level) : String := (named.lookup l).getD s!"Level {l.rank}"

end Level

/-- One record. -/
structure Record where
  /-- How grave it is. -/
  level : Level
  /-- The logger it was given to. -/
  logger : Text
  /-- What it says. -/
  message : Text
  deriving DecidableEq, Repr

/-- The logger of the program, of which all others are children. -/
def rootName : Text := "perfcompare"

/-- The logger of a part of the program. -/
def childName (part : Text) : Text := rootName ++ "." ++ part

/-- The logger that carries the report. -/
def reportName : Text := childName "report"

end BenchCompare.Log
