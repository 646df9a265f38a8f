import BenchCompare.Text.Encode
import BenchCompare.Text.Lines

/-!
# Paths

  A path is kept in normal form: its parts without empty ones and without `.`,
  behind no slash, one slash, or exactly two.  Two paths with one normal form
  name the same file.  A part `..` stays, since what it names depends on the
  files.
-/

namespace BenchCompare

/-- A path in normal form. -/
structure Path where
  /-- The number of slashes in front. -/
  slashes : Nat
  /-- The names, from the outermost to the innermost. -/
  parts : List Text
  deriving DecidableEq, Repr

namespace Path

/-- What divides the parts of a path. -/
abbrev slash : CodePoint := .char '/'

/-- The number of slashes that a normal form has for so many in front: two stay two, and more are one. -/
def normalSlashes (n : Nat) : Nat := if n ≤ 2 then n else 1

/-- The normal form of a written path. -/
def ofText (t : Text) : Path :=
  let parts := (Text.splitOn slash t.toList).map Text.ofList
  ⟨normalSlashes (t.toList.takeWhile (· = slash)).length, parts.filter fun p => p ≠ "" ∧ p ≠ "."⟩

/-- The path as text; the path without parts is written `.`. -/
def text (p : Path) : Text :=
  let written := ⟨List.replicate p.slashes slash⟩ ++ Text.intercalate "/" p.parts
  if written.isEmpty then "." else written

/-- The path of something in a directory. -/
def child (p : Path) (name : Text) : Path := { p with parts := p.parts ++ [name] }

/-- The names that are looked up one after the other to get to what lies at a path. -/
def steps (p : Path) : List Text :=
  if p.slashes = 0 ∧ p.parts = [] then ["."] else p.parts.map Text.listed

/-- The names with each `..` taken together with the name before it, as far as there is one. -/
def collapse (parts : List Text) : List Text :=
  (parts.foldl (fun before (p : Text) => if p = ".." then before.tail else p :: before) []).reverse

example : (ofText "a//b/./c/").text = "a/b/c" := by decide +kernel

example : (ofText "").text = "." ∧ (ofText "//a").text = "//a" ∧ (ofText "///a").text = "/a" := by
  decide +kernel

end Path

end BenchCompare
