import BenchCompare.Command.Request
import BenchCompare.Settings.Loader

/-!
# What a run stands on

  A run needs the time, room for values inside one another, and two libraries: one that
  reads YAML, and one that takes command lines apart, complains about misuse, and
  prints.  They are given to the run as functions, so that nothing is said about
  them here.
-/

namespace BenchCompare.Command

/-- What the library makes of the words of a command line. -/
inductive Reading
  /-- They ask for a comparison. -/
  | request (r : Request)
  /-- The library itself does what they ask for, or refuses them.  The run ends with an exit code, and with
  what was printed and what was shown on the console. -/
  | ended (exitCode : Nat) (printed shown : Text)
  /-- The library lets an exception out. -/
  | thrown (e : Thrown)

/-- What a run stands on. -/
structure Platform extends Log.Context where
  /-- How deep the containers of a JSON text may lie inside one another. -/
  depth : Nat
  /-- How deep lists and mappings may lie inside one another in a value that is shown. -/
  room : Nat
  /-- What is read in YAML texts. -/
  yaml : YamlLoader
  /-- What is read in command lines. -/
  read : FileSystem → List Text → Reading
  /-- What is shown if the command is misused in a way that only the command itself can tell. -/
  complaint : Text → Text
  /-- What is left of a text that is printed, or shown, elsewhere than on a terminal. -/
  plain : Text → Text

end BenchCompare.Command
