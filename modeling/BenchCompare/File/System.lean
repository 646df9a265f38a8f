import BenchCompare.File.Path
import BenchCompare.File.Tree

/-!
# File systems

  The files that the program sees are a value: a tree, the directory in it where
  relative paths start, and what may be done with the files.  `..` leads from a
  directory to the one that holds it; the root holds itself.
-/

namespace BenchCompare

/-- What may be done with files, by the names that lead to them from the root on. -/
structure Permissions where
  /-- A file may be read, or a directory listed. -/
  read : List Text → Bool
  /-- A file may be written, or what a directory holds may be changed. -/
  write : List Text → Bool
  /-- Names may be looked up in a directory. -/
  enter : List Text → Bool

/-- Everything may be done. -/
def Permissions.all : Permissions := ⟨fun _ => true, fun _ => true, fun _ => true⟩

/-- A tree of files and the directory where work goes on. -/
structure FileSystem where
  /-- All files. -/
  root : FileTree
  /-- The names that lead from the root to the directory where relative paths start. -/
  here : List Text
  /-- What may be done with the files. -/
  allowed : Permissions

namespace FileSystem

/-- What lies at names from the root on. -/
def at? (fs : FileSystem) (names : List Text) : Option FileTree := fs.root.at? names

/-- The files with something else at names from the root on. -/
def put (node : FileTree) (names : List Text) (fs : FileSystem) : FileSystem :=
  { fs with root := FileTree.put node names fs.root }

/-- The names from the root on at which a path starts. -/
def base (fs : FileSystem) (absolute : Bool) : List Text := if absolute then [] else fs.here

/-- The path with the names from the root on, each `..` taken together with the name before it. -/
def absolute (fs : FileSystem) (p : Path) : Path :=
  ⟨1, Path.collapse (fs.base (p.slashes ≠ 0) ++ p.parts)⟩

/-! ### Finding files -/

/-- Why nothing is found at a path. -/
inductive Missing
  /-- A name on the way is not there. -/
  | notFound
  /-- A name on the way is a file. -/
  | notDirectory
  /-- A name on the way, or the whole path, is longer than any can be. -/
  | tooLong
  /-- The path has a null character, which no path can have. -/
  | nullCharacter
  /-- The path cannot be encoded. -/
  | unencodable (fault : Text.EncodeFault)
  /-- Names may not be looked up in a directory on the way. -/
  | denied
  deriving DecidableEq, Repr

/-- The greatest length of a name, in bytes. -/
def maxNameLength : Nat := 255

/-- The greatest length of a path, in bytes. -/
def maxPathLength : Nat := 4095

/-- Why a path can name nothing, if its text alone says so. -/
def refusal? (path : Text) : Option Missing :=
  match path.nameFault? with
  | some fault => some (.unencodable fault)
  | none =>
    if path.toList.contains (.char '\x00') then some .nullCharacter
    else if maxPathLength < path.nameBytes.length then some .tooLong
    else none

/-- The names that lead straight to what lies at the parts of a path.  `here` are the names of a directory,
in reverse order. -/
def resolveFrom (fs : FileSystem) (here : List Text) : List Text → Except Missing (List Text)
  | [] => .ok here
  | part :: rest =>
    match fs.at? here.reverse with
    | some (.dir children) =>
      if !fs.allowed.enter here.reverse then .error .denied
      else if part = "." then resolveFrom fs here rest
      -- The root has no directory around it, and `tail` leaves it where it is.
      else if part = ".." then resolveFrom fs here.tail rest
      else if (children.lookup part).isSome then resolveFrom fs (part :: here) rest
      else .error (if maxNameLength < part.nameBytes.length then .tooLong else .notFound)
    | some (.file _) => .error .notDirectory
    | none => .error .notFound

/-- The names from the root on that lead straight to what lies at the parts of a path. -/
def resolveParts (fs : FileSystem) (absolute : Bool) (parts : List Text) :
    Except Missing (List Text) :=
  (fs.resolveFrom (fs.base absolute).reverse parts).map List.reverse

/-- The names from the root on that lead straight to what lies at a path. -/
def resolve (fs : FileSystem) (p : Path) : Except Missing (List Text) :=
  match refusal? p.text with
  | some m => .error m
  | none => fs.resolveParts (p.slashes ≠ 0) p.steps

/-- What lies at a path. -/
def find? (fs : FileSystem) (p : Path) : Option FileTree :=
  match fs.resolve p with
  | .ok names => fs.at? names
  | .error _ => none

/-- Whether a file may be read, or a directory listed, that lies at a path. -/
def mayRead (fs : FileSystem) (p : Path) : Bool := (fs.resolve p).toOption.any fs.allowed.read

/-- Whether names may be looked up in a directory that lies at a path. -/
def mayEnter (fs : FileSystem) (p : Path) : Bool := (fs.resolve p).toOption.any fs.allowed.enter

/-- Whether something lies at a path as it was written: a slash at its end, and a `.`, ask for a
directory. -/
def existsAsWritten (fs : FileSystem) (t : Text) : Bool :=
  let parts := (Text.splitOn Path.slash t.toList).map fun p => if p.isEmpty then "." else (Text.ofList p).listed
  !t.isEmpty && (refusal? t).isNone &&
    (fs.resolveParts (t.toList.head? = some Path.slash) parts).toOption.isSome

/-! ### Reading and writing -/

/-- Why a file cannot be read or written. -/
inductive FileFault
  /-- It is not there, nor is the directory that should hold it. -/
  | notFound (path : Path)
  /-- A file stands where a directory should. -/
  | notDirectory (path : Path)
  /-- It is a directory. -/
  | isDirectory (path : Path)
  /-- A name is longer than any can be. -/
  | tooLong (path : Path)
  /-- Its path has a null character. -/
  | nullCharacter
  /-- Its path, or the text that is written to it, cannot be encoded. -/
  | unencodable (fault : Text.EncodeFault)
  /-- What is asked for may not be done. -/
  | denied (path : Path)
  /-- It is no text. -/
  | encoding (fault : Text.Utf8Fault)
  deriving DecidableEq, Repr

/-- The wording of a fault. -/
def FileFault.message : FileFault → Text
  | notFound p => "[Errno 2] No such file or directory: " ++ Text.quoted p.text
  | notDirectory p => "[Errno 20] Not a directory: " ++ Text.quoted p.text
  | isDirectory p => "[Errno 21] Is a directory: " ++ Text.quoted p.text
  | tooLong p => "[Errno 36] File name too long: " ++ Text.quoted p.text
  | nullCharacter => "embedded null byte"
  | unencodable fault => fault.message
  | denied p => "[Errno 13] Permission denied: " ++ Text.quoted p.text
  | encoding fault => fault.message

/-- The fault of a path at which nothing is found. -/
def Missing.fault (p : Path) : Missing → FileFault
  | notFound => .notFound p
  | notDirectory => .notDirectory p
  | tooLong => .tooLong p
  | nullCharacter => .nullCharacter
  | unencodable fault => .unencodable fault
  | denied => .denied p

/-- Whether it cannot be told that nothing lies at a path. -/
def Missing.isFault : Missing → Bool
  | tooLong | denied => true
  | notFound | notDirectory | nullCharacter | unencodable _ => false

/-- Whether something lies at a path.  A name that is too long, and a directory on the way in which names
may not be looked up, is a fault; a null character is none, nor is a path that cannot be encoded. -/
def holds (fs : FileSystem) (p : Path) : Except FileFault Bool :=
  match fs.resolve p with
  | .ok _ => .ok true
  | .error m => if m.isFault then .error (m.fault p) else .ok false

/-- Why it cannot be told whether something lies at a path. -/
def untold? (fs : FileSystem) (p : Path) : Option FileFault :=
  match fs.holds p with
  | .ok _ => none
  | .error fault => some fault

/-- The text of a file, its line ends unified. -/
def readText (fs : FileSystem) (p : Path) : Except FileFault (List Char) :=
  match fs.resolve p with
  | .error m => .error (m.fault p)
  | .ok names =>
    if !fs.allowed.read names then .error (.denied p)
    else
      match fs.at? names with
      | some (.file content) => ((Text.decode content).map Text.unifyLines).mapError .encoding
      | _ => .error (.isDirectory p)

/-- The names of the file that lies at a path, or could: its directory must be there, and it must not be
one itself. -/
def place (fs : FileSystem) (p : Path) : Except FileFault (List Text) :=
  match fs.resolve p with
  | .ok names => if (fs.at? names).any FileTree.isDir then .error (.isDirectory p) else .ok names
  | .error .notFound =>
    -- The file itself may be missing, but not the directory that will hold it.
    match fs.resolve ⟨p.slashes, p.parts.dropLast⟩, p.parts.getLast? with
    | .ok names, some name =>
      if (fs.at? names).any FileTree.isDir then .ok (names ++ [name.listed]) else .error (.notFound p)
    | _, _ => .error (.notFound p)
  | .error m => .error (m.fault p)

/-- Whether a file may be written, or made if nothing lies at its names. -/
def mayWrite (fs : FileSystem) (names : List Text) : Bool :=
  fs.allowed.write (if (fs.at? names).isSome then names else names.dropLast)

/-- The names of the file that is opened at a path to be written. -/
def target (fs : FileSystem) (p : Path) : Except FileFault (List Text) := do
  let names ← fs.place p
  if fs.mayWrite names then return names else throw (.denied p)

/-- The files with a text written to one, in place of what was in it, and what went wrong, if something
did.  The file is emptied before the text is encoded. -/
def writeText (fs : FileSystem) (p : Path) (text : Text) : FileSystem × Option FileFault :=
  match fs.target p with
  | .error fault => (fs, some fault)
  | .ok names =>
    match text.encode with
    | .ok s => (fs.put (.file s.toUTF8) names, none)
    | .error fault => (fs.put (.file .empty) names, some (.unencodable fault))

/-- The files with a string written at the end of one, which has been opened. -/
def appendText (fs : FileSystem) (p : Path) (text : String) : Except FileFault FileSystem :=
  (fs.place p).map fun names =>
    match fs.at? names with
    | some (.file content) => fs.put (.file (content ++ text.toUTF8)) names
    | _ => fs.put (.file text.toUTF8) names

/-- The files with one that is opened to be written at its end.  It is made if it is not there. -/
def openText (fs : FileSystem) (p : Path) : Except FileFault FileSystem := do
  discard (fs.target p)
  fs.appendText p ""

end FileSystem

end BenchCompare
