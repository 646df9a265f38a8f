import BenchCompare.File.System
import BenchCompare.Settings.Loader
import BenchCompare.Settings.Resolve

/-!
# Configuration files

  A configuration file is a YAML text that holds a mapping, or nothing.
-/

namespace BenchCompare

/-- Why a configuration file gives no mapping. -/
inductive ConfigFault
  /-- There is no such file. -/
  | noFile (path : Path)
  /-- The file cannot be read as text. -/
  | unreadable (fault : FileSystem.FileFault)
  /-- The file is not YAML. -/
  | notYaml (path : Path) (message : Text)
  /-- The library that reads the text lets an exception out. -/
  | thrown (e : Thrown)
  /-- The file holds a value of this kind. -/
  | noMapping (kind : String)
  deriving DecidableEq, Repr

/-- The wording of a fault. -/
def ConfigFault.message : ConfigFault → Text
  | noFile p => "Config not found: " ++ p.text
  | unreadable fault => fault.message
  | notYaml p message => "Invalid YAML in " ++ p.text ++ ": " ++ message
  | thrown e => e.message
  | noMapping kind => s!"Config must be a YAML mapping, got {kind}"

variable (yaml : YamlLoader)

/-- The mapping in the text of a configuration file. -/
def parseConfig (p : Path) (text : List Char) : Except ConfigFault Entries :=
  match yaml text with
  | .ok .null => .ok []
  | .ok (.mapping entries) => .ok entries
  | .ok v => .error (.noMapping v.kind)
  | .error (.malformed message) => .error (.notYaml p message)
  | .error (.thrown e) => .error (.thrown e)

/-- The mapping in a configuration file. -/
def loadConfig (fs : FileSystem) (p : Path) : Except ConfigFault Entries :=
  match fs.holds p with
  | .error fault => .error (.unreadable fault)
  | .ok false => .error (.noFile p)
  | .ok true =>
    match fs.readText p with
    | .error fault => .error (.unreadable fault)
    | .ok text => parseConfig yaml p text

end BenchCompare
