import BenchCompare.Command.Platform
import BenchCompare.Command.Usage
import BenchCompare.Settings.Basic
import BenchCompare.Text.Terminal

/-!
# Command lines

  The library for command lines that the program runs with.  It takes words
  apart and makes a request of them.  The values of options are checked in the
  order in which the options were first given, then the two arguments; of an
  option that was given twice only the last value counts.
-/

namespace BenchCompare.Command

namespace CommandLine

/-- Why words make no request. -/
inductive Refusal
  /-- They misuse the command line. -/
  | misuse (m : Misuse)
  /-- One of them should be a path and has a null character. -/
  | nullCharacter
  /-- One of them should be a path and cannot be encoded. -/
  | unencodable (fault : Text.EncodeFault)

/-! ### Values -/

/-- A path as complaints show it: what is no character has a sign in its place. -/
def displayed (path : Text) : Text :=
  ⟨path.toList.map fun c => if c.isHalf then .char '\ufffd' else c⟩

/-- A path.  What lies there may be read. -/
def anyPath (fs : FileSystem) (hint : String) (path : Text) : Except Refusal Text :=
  match FileSystem.refusal? path with
  | some (.unencodable fault) => .error (.unencodable fault)
  | some .nullCharacter => .error .nullCharacter
  | _ =>
    if fs.existsAsWritten path && !fs.mayRead (Path.ofText path) then
      .error (.misuse (.unreadable hint (displayed path)))
    else .ok path

/-- A path at which something lies. -/
def existingPath (fs : FileSystem) (hint : String) (path : Text) : Except Refusal Text := do
  let path ← anyPath fs hint path
  if fs.existsAsWritten path then return path else throw (.misuse (.noPath hint (displayed path)))

/-- An integer. -/
def integer (hint : String) (value : Text) : Except Refusal Int :=
  match value.encode.toOption.map Decimal.readInteger with
  | some (.ok n) => .ok n
  | _ => .error (.misuse (.noInteger hint value))

/-- One of the choices. -/
def choice (choices : List Text) (hint : String) (value : Text) : Except Refusal Text :=
  if choices.contains value then .ok value else .error (.misuse (.noChoice hint value choices))

/-- The name of an option in complaints. -/
def hint (option : CompareOption) : String :=
  ((compareOptions.find? fun s => s.option = option).bind fun s => s.names.head?).getD ""

/-- Checks the value of an option. -/
def check (fs : FileSystem) (words : Words CompareOption) (option : CompareOption) : Except Refusal Unit :=
  match option, words.value? option with
  | .config, some v => discard (existingPath fs (hint option) v)
  | .minCount, some v => discard (integer (hint option) v)
  | .format, some v => discard (choice outputFormats (hint option) v)
  | .output, some v | .logFile, some v => discard (anyPath fs (hint option) v)
  | _, _ => .ok ()

/-! ### Words -/

/-- The request that words make. -/
def request (fs : FileSystem) (words : Words CompareOption) : Except Refusal Request := do
  -- The order of the checks decides which of several mistakes is reported.
  words.given.forM (check fs words)
  let config ← (words.value? .config).mapM (existingPath fs (hint .config))
  let minCount ← (words.value? .minCount).mapM (integer (hint .minCount))
  let format ← (words.value? .format).mapM (choice outputFormats (hint .format))
  let output ← (words.value? .output).mapM (anyPath fs (hint .output))
  let logFile ← (words.value? .logFile).mapM (anyPath fs (hint .logFile))
  let left ← words.arguments[0]?.mapM (existingPath fs "[LEFT]")
  let right ← words.arguments[1]?.mapM (existingPath fs "[RIGHT]")
  let extra := words.arguments.drop 2
  if !extra.isEmpty then throw (.misuse (.extraArguments extra))
  return ⟨left, right, config, minCount, format, output, words.has .verbose, words.has .quiet, logFile⟩

/-- What is shown if the words are refused. -/
def complaint (p : Place) (m : Misuse) : Text := Text.unadorned (m.text p)

/-- The end of a run whose words are refused. -/
def refused (p : Place) (m : Misuse) : Reading := .ended 2 "" (complaint p m)

/-- What is read in the words behind the name of the command. -/
def readCompare (fs : FileSystem) (args : List Text) : Reading :=
  match Words.ofList compareOptions true args with
  | .error fault => refused .compare (.words fault)
  | .ok words =>
    -- Help is asked for, whatever the values of the other options are.
    if words.has .help then .ended 0 Place.compare.help ""
    else
      match request fs words with
      | .error (.misuse m) => refused .compare m
      | .error .nullCharacter => .thrown ⟨"ValueError", true, "embedded null byte"⟩
      | .error (.unencodable fault) => .thrown ⟨"UnicodeEncodeError", true, fault.message⟩
      | .ok r => .request r

/-- What an option of the program prints. -/
def optionText : ProgramOption → Text
  | .version => versionText
  | .help => Place.program.help

/-- Takes the words in front of the name of the command apart, and goes on with the rest. -/
def withProgramWords (args : List Text) (go : List Text → Reading) : Reading :=
  match Words.ofList programOptions false args with
  | .error fault => refused .program (.words fault)
  | .ok words =>
    match words.options with
    | (option, _) :: _ => .ended 0 (optionText option) ""
    | [] => go words.arguments

/-- What is read in the words of a command line.  What stands where the name of the command should is read
once more as an option before it is refused. -/
def read (fs : FileSystem) (args : List Text) : Reading :=
  if args.isEmpty then .ended 2 "" Place.program.help
  else
    withProgramWords args fun
      | [] => refused .program .noCommand
      | name :: rest =>
        if name = compareName then readCompare fs rest
        else withProgramWords (name :: rest) fun _ =>
          refused .program (.noSuchCommand name (Text.similarNames [compareName] name))

end CommandLine

end BenchCompare.Command
