import BenchCompare.Command.Words

/-!
# Options, help and misuse

  The program has one command, which compares two jobs.  The program itself and
  the command have options of their own, a help text each, and each starts its
  complaints about misuse with two lines of its own.
-/

namespace BenchCompare.Command

/-- The name of the program. -/
def programName : String := "perfcompare"

/-- The version of the program. -/
def programVersion : String := "0.1.0"

/-- The name of the command. -/
def compareName : String := "compare"

/-! ### Options -/

/-- An option of the program. -/
inductive ProgramOption
  /-- Show the version. -/
  | version
  /-- Show the help text. -/
  | help
  deriving DecidableEq, Repr

/-- How the options of the program are written. -/
def programOptions : List (Spelling ProgramOption) :=
  [⟨.version, ["--version"], false⟩, ⟨.help, ["--help"], false⟩]

/-- An option of the command. -/
inductive CompareOption
  /-- The configuration file. -/
  | config
  /-- The least count of a data item. -/
  | minCount
  /-- The output format. -/
  | format
  /-- The output file. -/
  | output
  /-- Show all records. -/
  | verbose
  /-- Show warnings and the report only. -/
  | quiet
  /-- The file that takes all records. -/
  | logFile
  /-- Show the help text. -/
  | help
  deriving DecidableEq, Repr

/-- How the options of the command are written. -/
def compareOptions : List (Spelling CompareOption) :=
  [⟨.config, ["--config"], true⟩, ⟨.minCount, ["--min-count"], true⟩, ⟨.format, ["--format"], true⟩,
    ⟨.output, ["--output", "-o"], true⟩, ⟨.verbose, ["-v", "--verbose"], false⟩,
    ⟨.quiet, ["-q", "--quiet"], false⟩, ⟨.logFile, ["--log-file"], true⟩, ⟨.help, ["--help"], false⟩]

/-! ### Help -/

/-- Where misuse is found. -/
inductive Place
  /-- In front of the name of the command. -/
  | program
  /-- Behind it. -/
  | compare
  deriving DecidableEq, Repr

/-- What is typed to get to a place. -/
def Place.path : Place → String
  | program => programName
  | compare => programName ++ " " ++ compareName

/-- The line that says what may be typed. -/
def Place.usage : Place → String
  | program => s!"Usage: {programName} [OPTIONS] COMMAND [ARGS]..."
  | compare => s!"Usage: {programName} {compareName} [OPTIONS] [LEFT] [RIGHT]"

/-- The lines of a help text behind the first one. -/
def Place.details : Place → List Text
  | program => [
    "",
    "  perfcompare: compare benchmark latencies between two jobs.",
    "",
    "Options:",
    "  --version  Show the version and exit.",
    "  --help     Show this message and exit.",
    "",
    "Commands:",
    "  compare  Compare latency metrics of two benchmark jobs."]
  | compare => [
    "",
    "  Compare latency metrics of two benchmark jobs.",
    "",
    "  LEFT and RIGHT are run files or directories of run files.  They may be omitted",
    "  when the config file provides \x60\x60left_job\x60\x60/\x60\x60right_job\x60\x60.",
    "",
    "  Examples:",
    "      perfcompare compare results/baseline results/candidate",
    "      perfcompare compare base.json cand.json --format stats --min-count 50",
    "      perfcompare compare --config compare.yaml --format csv -o out.csv",
    "",
    "Options:",
    "  --config PATH               YAML config with job paths and thresholds.",
    "  --min-count INTEGER         Discard data items whose request Count is below",
    "                              this (default: 10).",
    "  --format [table|stats|csv]  Output view (default: table).",
    "  -o, --output PATH           Write stats/csv output to this file instead of",
    "                              stdout.",
    "  -v, --verbose               Show detailed output.",
    "  -q, --quiet                 Only show warnings, errors and the report.",
    "  --log-file PATH             Also write a DEBUG log to this file.",
    "  --help                      Show this message and exit."]

/-- Lines as text, each one ended. -/
def lines (ls : List Text) : Text := ⟨ls.flatMap fun l => l.toList ++ [.char '\n']⟩

/-- The help text of a place. -/
def Place.help (p : Place) : Text := lines (p.usage :: p.details)

/-- The text that shows the version. -/
def versionText : String := s!"{programName}, version {programVersion}\n"

/-! ### Misuse -/

/-- Why a command line is refused. -/
inductive Misuse
  /-- Its words cannot be taken apart. -/
  | words (fault : WordFault)
  /-- There is no command. -/
  | noCommand
  /-- There is no such command, but perhaps some of similar names. -/
  | noSuchCommand (name : Text) (similar : List String)
  /-- Nothing lies at a path that an argument or option names. -/
  | noPath (hint : String) (path : Text)
  /-- What lies at a path that an argument or option names may not be read. -/
  | unreadable (hint : String) (path : Text)
  /-- The value of an option is no integer. -/
  | noInteger (hint : String) (value : Text)
  /-- The value of an option is not among the choices. -/
  | noChoice (hint : String) (value : Text) (choices : List Text)
  /-- There are arguments too many. -/
  | extraArguments (arguments : List Text)
  /-- The command says what is wrong. -/
  | complaint (message : Text)
  deriving DecidableEq, Repr

/-- The wording of a misuse. -/
def Misuse.message : Misuse → Text
  | words fault => fault.message
  | noCommand => "Missing command."
  | noSuchCommand name similar => s!"No such command {Text.quoted name}.{suggestion similar}"
  | noPath hint path => s!"Invalid value for '{hint}': Path {Text.quoted path} does not exist."
  | unreadable hint path => s!"Invalid value for '{hint}': Path {Text.quoted path} is not readable."
  | noInteger hint value => s!"Invalid value for '{hint}': {Text.quoted value} is not a valid integer."
  | noChoice hint value choices =>
    let listed := ", ".intercalate (choices.map Text.quoted)
    s!"Invalid value for '{hint}': {Text.quoted value} is not one of {listed}."
  | extraArguments [argument] => "Got unexpected extra argument (" ++ argument ++ ")"
  | extraArguments arguments =>
    "Got unexpected extra arguments (" ++ Text.intercalate " " arguments ++ ")"
  | complaint message => message

/-- Whether a complaint names the place: one about the value of an option that was not read does not. -/
def Misuse.namesPlace : Misuse → Bool
  | words (.noValue _) | words (.strayValue _) => false
  | _ => true

/-- A complaint about a misuse. -/
def Misuse.text (p : Place) (m : Misuse) : Text :=
  let error := "Error: " ++ m.message
  if m.namesPlace then lines [p.usage, s!"Try '{p.path} --help' for help.", "", error] else lines [error]

end BenchCompare.Command
