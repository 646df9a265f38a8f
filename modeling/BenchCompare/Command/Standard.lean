import BenchCompare.Command.CommandLine
import BenchCompare.Json.Document
import BenchCompare.Yaml.Loader

/-!
# The platform of the program

  What the program runs with: the library for command lines and the loader of
  YAML texts that are written here.
-/

namespace BenchCompare.Command

/-- The platform of a run at a time. -/
def Platform.standard (stamp : String) : Platform where
  stamp := stamp
  trouble _ := "--- Logging error ---\n"
  depth := Json.usualDepth
  room := Value.usualRoom
  yaml := Yaml.load
  read := CommandLine.read
  complaint message := CommandLine.complaint .compare (.complaint message)
  plain := Text.unadorned

end BenchCompare.Command
