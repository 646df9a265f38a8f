import BenchCompare.Value.Basic

/-!
# Loaders of YAML texts

  Configuration files are read by a library.  All that the program knows of it
  is what may come of a text: a value, the news that the text is no YAML, or an
  exception of any other kind, which the library lets out.
-/

namespace BenchCompare

/-- An exception that a library lets out. -/
structure Thrown where
  /-- The name of its class. -/
  kind : String
  /-- Whether it says that a file is not there or that a value is bad. -/
  isMistake : Bool
  /-- Its wording. -/
  message : Text
  deriving DecidableEq, Repr

/-- Why a text is not read as a value. -/
inductive YamlFault
  /-- The text is no YAML. -/
  | malformed (message : Text)
  /-- The library lets an exception out. -/
  | thrown (e : Thrown)
  deriving DecidableEq, Repr

/-- What a library makes of texts. -/
abbrev YamlLoader := List Char → Except YamlFault Value

end BenchCompare
