import BenchCompare.Value.Key
import BenchCompare.Yaml.Meaning
import BenchCompare.Yaml.Node

/-!
# Values of YAML texts

  A text holds at most one document, and an empty one stands for null.  A key
  that is written more than once keeps its first place and takes its last
  value.  Of several scalars that stand for nothing the fault of the outermost
  one is reported, and of several equally deep ones that of the first.
-/

namespace BenchCompare.Yaml

/-! ### Several faults -/

/-- Something that was read, or a fault and how deep inside lists and mappings it is. -/
abbrev Depthwise (α : Type) := Except (Nat × Fault) α

/-- Two things that were read.  Of two faults the one that is less deep counts. -/
def both {α β : Type} : Depthwise α → Depthwise β → Depthwise (α × β)
  | .ok a, .ok b => .ok (a, b)
  | .ok _, .error g => .error g
  | .error f, .ok _ => .error f
  | .error f, .error g => .error (if g.1 < f.1 then g else f)

/-! ### Values of nodes -/

namespace Node

/-- What a node means that is a key.  The sign that is reserved for values may be one. -/
def key (depth : Nat) : Node → Depthwise BenchCompare.Scalar
  | marked text => .ok (.str text)
  | plain text =>
    if text = "=" then .ok (.str text) else (meaning text).mapError fun fault => (depth, fault)
  | _ => .error (depth, .malformed .compoundKey)

mutual

/-- What a node means that is so deep. -/
def value (depth : Nat) : Node → Depthwise Value
  | marked text => .ok (.str text)
  | plain text => ((meaning text).map Value.scalar).mapError fun fault => (depth, fault)
  | sequence items => (itemValues (depth + 1) items).map Value.list
  | mapping entries =>
    (entryValues (depth + 1) entries).map fun entries =>
      -- A key that comes again keeps its place.
      .mapping (entries.foldl (fun before (k, v) => insertField k v before) [])

/-- What items mean. -/
def itemValues (depth : Nat) : List Node → Depthwise (List Value)
  | [] => .ok []
  | item :: rest =>
    (both (item.value depth) (itemValues depth rest)).map fun (v, others) => v :: others

/-- What entries mean. -/
def entryValues (depth : Nat) : List (Node × Node) → Depthwise (List (BenchCompare.Scalar × Value))
  | [] => .ok []
  | (k, v) :: rest =>
    (both (both (k.key depth) (v.value depth)) (entryValues depth rest)).map
      fun (entry, others) => entry :: others

end

end Node

/-! ### Texts -/

/-- The value of a text. -/
def parse (text : List Char) : Except Fault Value :=
  match Node.ofText text with
  | .error fault => .error fault
  | .ok none => .ok .null
  | .ok (some node) => (node.value 0).mapError (·.2)

end BenchCompare.Yaml
