import BenchCompare.Command.Named
import BenchCompare.Command.Run
import Std.Time.Format

/-!
# The program

  The program reads the files that a run may need, runs, prints, and writes the
  files that the run has changed.
-/

namespace BenchCompare.Program

/-! ### Reading files -/

/-- The time now, to the thousandth of a second. -/
def now : IO String := do
  let t ← Std.Time.PlainDateTime.now
  let date : Date := ⟨t.date.year.toInt.toNat, t.date.month.val.toNat, t.date.day.val.toNat⟩
  let clock : Clock :=
    ⟨t.time.hour.val.toNat, t.time.minute.val.toNat, t.time.second.val.toNat, 0⟩
  let thousandth := t.time.nanosecond.val.toNat / 1000000
  return s!"{date.text} {clock.text},{padded 3 thousandth}"

/-- The place of names from the root on.  A name with halves has none. -/
def placeOf? (names : List Text) : Option String :=
  (names.mapM fun (name : Text) => name.encode.toOption).map fun names => "/" ++ "/".intercalate names

/-- The file or directory at names, a directory without what it holds.  What is neither counts as an empty
file. -/
def readNode (names : List Text) : IO (Option FileTree) := do
  let some place := placeOf? names | return none
  try
    let p ← IO.FS.realPath place
    let kind := (← p.metadata).type
    if ← p.isDir then return some .empty
    else if kind == .file then return some (.file (← IO.FS.readBinFile p))
    else return some (.file .empty)
  catch _ => return none

/-- The names of what a directory holds. -/
def namesIn (names : List Text) : IO (List Text) := do
  let some place := placeOf? names | return []
  try
    let p ← IO.FS.realPath place
    return (← p.readDir).toList.map fun entry => entry.fileName
  catch _ => return []

/-- The files with what lies at names from the root on, unless it is known already. -/
def learn (fs : FileSystem) (names : List Text) : IO FileSystem := do
  if (fs.at? names).isSome then return fs
  match ← readNode names with
  | some node => return fs.put node names
  | none => return fs

/-- The files with what lies on the way to a path, at its end, and in the directory there if it may be a
job. -/
def explore (fs : FileSystem) (p : Path) : IO FileSystem := do
  let step (known : FileSystem × List Text) (part : Text) : IO (FileSystem × List Text) := do
    let names := if part = ".." then known.2.dropLast else known.2 ++ [part]
    return (← learn known.1 names, names)
  let (fs, names) ← p.parts.foldlM step (fs, fs.base (p.slashes ≠ 0))
  if (fs.at? names).any FileTree.isDir then
    let runs := (← namesIn names).filter isRunName
    (runs.map fun name => names ++ [name]).foldlM learn fs
  else return fs

/-! ### Writing files -/

/-- Writes a file that the run has changed. -/
def settleFile (before after : FileSystem) (p : Path) : IO Unit := do
  if let some (.file content) := after.find? p then
    let unchanged := match before.find? p with
      | some (.file old) => old.data == content.data
      | _ => false
    if let some place := placeOf? (after.absolute p).parts then
      if !unchanged then IO.FS.writeBinFile place content

end BenchCompare.Program

open BenchCompare BenchCompare.Program in
/-- Runs the program. -/
def main (words : List String) : IO UInt32 := do
  let args : List Text := words.map Text.ofString
  let here := (Path.ofText (← IO.currentDir).toString).parts
  let start : FileSystem := ⟨FileTree.put .empty here .empty, here, .all⟩
  let named := Command.namedPaths args
  let mentioned ← named.foldlM explore start
  let configured := Command.configuredPaths mentioned args
  let files ← configured.foldlM explore mentioned
  let outcome := Command.run (.standard (← now)) files args
  for p in named ++ configured do settleFile files outcome.files p
  IO.eprint outcome.shown.escaped
  IO.print outcome.printed.escaped
  if let some failure := outcome.failure then IO.eprintln failure.message.escaped
  return UInt32.ofNat outcome.exitCode
