import BenchCompare.Log.Session
import BenchCompare.Settings.Resolve

/-!
# Requests

  A request is what the words of a command line ask for.  It has the paths as
  they were written.
-/

namespace BenchCompare.Command

/-- What is asked for. -/
structure Request where
  /-- The path of the left job. -/
  left : Option Text
  /-- The path of the right job. -/
  right : Option Text
  /-- The path of the configuration file. -/
  config : Option Text
  /-- The least count of a data item. -/
  minCount : Option Int
  /-- The output format. -/
  format : Option Text
  /-- The path of the output file. -/
  output : Option Text
  /-- Whether the console shows everything. -/
  verbose : Bool
  /-- Whether the console shows warnings and the report only. -/
  quiet : Bool
  /-- The path of the file that takes all records. -/
  logFile : Option Text
  deriving DecidableEq, Repr

namespace Request

/-- How logging is set up. -/
def logging (r : Request) : Log.Setup := ⟨r.verbose, r.quiet, r.logFile.map Path.ofText⟩

/-- A text as a value, and null if there is none. -/
def textValue (text : Option Text) : Value := text.elim .null .str

/-- The settings that the request overrides. -/
def overrides (r : Request) : Entries :=
  [(.str Setting.leftJob.key, textValue r.left), (.str Setting.rightJob.key, textValue r.right),
    (.str Setting.minCount.key, r.minCount.elim .null fun n => .scalar (.int n)),
    (.str Setting.format.key, textValue r.format), (.str Setting.output.key, textValue r.output)]

end Request

end BenchCompare.Command
