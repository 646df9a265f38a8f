import BenchCompare.Text.Basic

/-!
# Trees of files

  A tree is a file with its bytes, or a directory with what it holds under
  names.
-/

namespace BenchCompare

/-- A file or a directory. -/
inductive FileTree
  /-- A regular file with its bytes. -/
  | file (content : ByteArray)
  /-- A directory with what it holds, by name. -/
  | dir (children : List (Text × FileTree))

namespace FileTree

/-- The directory that holds nothing. -/
def empty : FileTree := dir []

/-- Whether it is a directory. -/
def isDir : FileTree → Bool
  | dir _ => true
  | file _ => false

/-- What a directory holds under a name. -/
def child? (name : Text) : FileTree → Option FileTree
  | dir children => children.lookup name
  | file _ => none

/-- What lies at a list of names. -/
def at? (t : FileTree) : List Text → Option FileTree
  | [] => some t
  | name :: rest =>
    match t.child? name with
    | some c => c.at? rest
    | none => none

/-- The directory with something under a name, in place of what was there. -/
def setChild (name : Text) (node : FileTree) : List (Text × FileTree) → List (Text × FileTree)
  | [] => [(name, node)]
  | (n, c) :: rest => if n = name then (n, node) :: rest else (n, c) :: setChild name node rest

/-- The tree with something else at a list of names.  Directories that are missing on the way are made. -/
def put (node : FileTree) : List Text → FileTree → FileTree
  | [], _ => node
  | name :: rest, dir children =>
    dir (setChild name (put node rest ((children.lookup name).getD empty)) children)
  | _ :: _, file content => file content

/-! ### Directories -/

/-- The names under which a directory holds something, in the order of its children. -/
def names : FileTree → List Text
  | dir children => children.map (·.1)
  | file _ => []

/-- The names of the regular files that a directory holds, in the order of its children. -/
def fileNames : FileTree → List Text
  | dir children => (children.filter fun (_, c) => !c.isDir).map (·.1)
  | file _ => []

end FileTree

end BenchCompare
