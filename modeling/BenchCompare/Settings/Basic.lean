import BenchCompare.Decimal.Numeral
import BenchCompare.File.Path

/-!
# Settings

  A comparison has five settings: the two jobs, the least number of requests
  that a data item must stand for, the format of the output, and the file that
  takes it.  Settings that cannot be worked with are *problems*; an error stops
  the comparison and a warning does not.
-/

namespace BenchCompare

/-! ### The settings of a comparison -/

/-- The names of the output formats. -/
def outputFormats : List Text := ["table", "stats", "csv"]

/-- The settings of a comparison. -/
structure Settings where
  /-- The run file or directory of the left job. -/
  leftJob : Option Path
  /-- The run file or directory of the right job. -/
  rightJob : Option Path
  /-- Data items with a lower count are dropped. -/
  minCount : Int
  /-- The output format, one of `outputFormats` if there is no problem. -/
  format : Text
  /-- The file that takes the output. -/
  output : Option Path
  deriving DecidableEq, Repr

/-- The settings if nothing is given. -/
def Settings.default : Settings := ⟨none, none, 10, "table", none⟩

/-! ### Keys -/

/-- One of the settings. -/
inductive Setting
  /-- The left job. -/
  | leftJob
  /-- The right job. -/
  | rightJob
  /-- The least count of a data item. -/
  | minCount
  /-- The output format. -/
  | format
  /-- The output file. -/
  | output
  deriving DecidableEq, Repr

namespace Setting

/-- All settings. -/
def all : List Setting := [leftJob, rightJob, minCount, format, output]

/-- The key of a setting in a mapping. -/
def key : Setting → String
  | leftJob => "left_job"
  | rightJob => "right_job"
  | minCount => "min_allowed_request_count"
  | format => "output_format"
  | output => "output"

theorem mem_all (s : Setting) : s ∈ all := by cases s <;> decide

theorem key_injective {s t : Setting} (h : s.key = t.key) : s = t := by
  cases s <;> cases t <;> first | rfl | exact absurd h (by decide)

end Setting

/-! ### Problems -/

/-- How bad a problem is. -/
inductive Severity
  /-- The comparison cannot be made. -/
  | error
  /-- The comparison can be made. -/
  | warning
  deriving DecidableEq, Repr

/-- Something that is wrong with a setting. -/
structure Problem where
  /-- The setting. -/
  setting : Setting
  /-- What is wrong. -/
  message : Text
  /-- How bad it is. -/
  severity : Severity
  deriving DecidableEq, Repr

namespace Settings

/-- A problem, if there is one. -/
def problemIf (wrong : Prop) [Decidable wrong] (p : Problem) : List Problem := if wrong then [p] else []

/-- What is wrong with the settings, in the order of the settings. -/
def problems (c : Settings) : List Problem :=
  let choices := Text.intercalate ", " outputFormats
  problemIf (c.leftJob = none) ⟨.leftJob, "No left job given.", .error⟩ ++
  problemIf (c.rightJob = none) ⟨.rightJob, "No right job given.", .error⟩ ++
  problemIf (c.minCount < 0)
    ⟨.minCount, s!"{Setting.minCount.key} must be >= 0, got {c.minCount}.", .error⟩ ++
  problemIf (c.format ∉ outputFormats)
    ⟨.format, "Unknown output format '" ++ c.format ++ "'. Choose one of: " ++ choices ++ ".", .error⟩ ++
  problemIf (c.output ≠ none ∧ c.format = "table")
    ⟨.output, "The table format is written to the log; output file ignored.", .warning⟩

/-- Whether the problems can be put into words: a least count that is a problem must not have too many
digits. -/
def canBeWorded (c : Settings) : Bool := 0 ≤ c.minCount || Decimal.isWritable c.minCount

/-- The problems that stop the comparison. -/
def errors (c : Settings) : List Problem := c.problems.filter fun p => p.severity = .error

/-- The problems that do not. -/
def warnings (c : Settings) : List Problem := c.problems.filter fun p => p.severity = .warning

end Settings

end BenchCompare
