import BenchCompare.Command.Standard
import BenchCompare.Settings.File

/-!
# The files of a run

  Which files a run may read or write is known from the words of its command
  line and from its configuration file.
-/

namespace BenchCompare.Command

/-- The words behind the name of the command, taken apart. -/
def compareWords? (args : List Text) : Option (Words CompareOption) := do
  let words ← (Words.ofList programOptions false args).toOption
  (Words.ofList compareOptions true words.arguments.tail).toOption

/-- The paths that the words of a command line name. -/
def namedPaths (args : List Text) : List Path :=
  match compareWords? args with
  | none => []
  | some words => (words.arguments ++ words.options.filterMap (·.2)).map Path.ofText

/-- The path that a mapping gives to a setting. -/
def settingPath? (entries : Entries) (s : Setting) : Option Path :=
  (entries.value? s).bind fun v => ((readPath v).toOption).join

/-- The paths that the configuration file of a command line names. -/
def configuredPaths (fs : FileSystem) (args : List Text) : List Path :=
  let entries? := do
    let words ← compareWords? args
    (loadConfig Yaml.load fs (Path.ofText (← words.value? .config))).toOption
  match entries? with
  | none => []
  | some entries => [Setting.leftJob, .rightJob, .output].filterMap (settingPath? entries)

end BenchCompare.Command
