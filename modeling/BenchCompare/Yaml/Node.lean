import BenchCompare.Yaml.Token

/-!
# Nodes of YAML

  A node is a scalar, a list or a mapping, as it was written.  An item, a key
  or a value that is missing is the empty plain scalar.
-/

namespace BenchCompare.Yaml

/-- A node. -/
inductive Node
  /-- A scalar without quotes and indicators. -/
  | plain (text : String)
  /-- Any other scalar. -/
  | marked (text : Text)
  /-- A list. -/
  | sequence (items : List Node)
  /-- A mapping. -/
  | mapping (entries : List (Node × Node))
  deriving Inhabited

namespace Node

/-- What a missing node is. -/
def missing : Node := plain ""

/-! ### Readers -/

/-- Something that is read from the start of a list of tokens. -/
abbrev Reader := StateT (List Token) (Except Fault)

/-- The next token. -/
def peek : Reader (Option Token) := do return (← get).head?

/-- Passes over the next token. -/
def skip : Reader Unit := modify List.tail

/-- Refuses the next token; at the end of the tokens the text is unfinished. -/
def refuse {α : Type} : Reader α := do
  throw (.malformed (if (← get).isEmpty then .unfinished else .strayToken))

/-- Whether the next token is one of these. -/
def nextIn (ts : List Token) : Reader Bool := do return (← peek).any ts.contains

/-- Passes over the comma in front of all parts but the first. -/
def skipComma (first : Bool) : Reader Unit := do
  if first then return
  if ← nextIn [.flowEntry] then skip else refuse

/-! ### Nodes -/

mutual

/-- A node.  `block` says whether it may be made of indented lines, and `flush` whether it may be a list
whose items are indented no deeper than the key before it.  In this and in all that follows the number
bounds the steps. -/
def read (block flush : Bool) : Nat → Reader Node
  | 0 => refuse
  | fuel + 1 => do
    match ← peek with
    | some (.plain text) =>
      skip
      return plain text
    | some (.marked text) =>
      skip
      return marked text
    | some .flowSequenceStart =>
      skip
      return sequence (← readFlowItems true fuel)
    | some .flowMappingStart =>
      skip
      return mapping (← readFlowEntries true fuel)
    | some .blockEntry =>
      -- No start of a list was put in front of the dash, as it is no deeper than the key.
      if flush then return sequence (← readFlushItems fuel) else refuse
    | some .blockSequenceStart =>
      if block then
        skip
        return sequence (← readItems fuel)
      else refuse
    | some .blockMappingStart =>
      if block then
        skip
        return mapping (← readEntries fuel)
      else refuse
    | _ => refuse

/-- The items of a list that is indented. -/
def readItems : Nat → Reader (List Node)
  | 0 => refuse
  | fuel + 1 => do
    match ← peek with
    | some .blockEntry =>
      skip
      let item ← if ← nextIn [.blockEntry, .blockEnd] then pure missing else read true false fuel
      return item :: (← readItems fuel)
    | some .blockEnd =>
      skip
      return []
    | _ => refuse

/-- The items of a list that is indented no deeper than the key before it. -/
def readFlushItems : Nat → Reader (List Node)
  | 0 => refuse
  | fuel + 1 => do
    if ← nextIn [.blockEntry] then
      skip
      let item ←
        if ← nextIn [.blockEntry, .key, .value, .blockEnd] then pure missing else read true false fuel
      return item :: (← readFlushItems fuel)
    else return []

/-- A key or a value in a mapping of indented lines, which may be missing. -/
def readPart : Nat → Reader Node
  | 0 => refuse
  | fuel + 1 => do
    if ← nextIn [.key, .value, .blockEnd] then return missing else read true true fuel

/-- The entries of a mapping of indented lines. -/
def readEntries : Nat → Reader (List (Node × Node))
  | 0 => refuse
  | fuel + 1 => do
    match ← peek with
    | some .key =>
      skip
      let key ← readPart fuel
      if ← nextIn [.value] then
        skip
        let value ← readPart fuel
        return (key, value) :: (← readEntries fuel)
      else return (key, missing) :: (← readEntries fuel)
    | some .blockEnd =>
      skip
      return []
    | _ => refuse

/-- A key or a value inside brackets, which is missing in front of one of these tokens. -/
def readFlowPart (ends : List Token) : Nat → Reader Node
  | 0 => refuse
  | fuel + 1 => do
    if ← nextIn ends then return missing else read false false fuel

/-- A key with its value, inside brackets that `close` closes. -/
def readFlowPair (close : Token) : Nat → Reader (Node × Node)
  | 0 => refuse
  | fuel + 1 => do
    let key ← readFlowPart [.value, .flowEntry, close] fuel
    if ← nextIn [.value] then
      skip
      return (key, ← readFlowPart [.flowEntry, close] fuel)
    else return (key, missing)

/-- The items of a list in brackets.  A key with its value is a mapping of its own. -/
def readFlowItems (first : Bool) : Nat → Reader (List Node)
  | 0 => refuse
  | fuel + 1 => do
    if !(← nextIn [.flowSequenceEnd]) then
      skipComma first
      if ← nextIn [.key] then
        skip
        let entry ← readFlowPair .flowSequenceEnd fuel
        return mapping [entry] :: (← readFlowItems false fuel)
      -- A comma may stand in front of the closing bracket.
      else if !(← nextIn [.flowSequenceEnd]) then
        let item ← read false false fuel
        return item :: (← readFlowItems false fuel)
    skip
    return []

/-- The entries of a mapping in braces.  A key may stand alone. -/
def readFlowEntries (first : Bool) : Nat → Reader (List (Node × Node))
  | 0 => refuse
  | fuel + 1 => do
    if !(← nextIn [.flowMappingEnd]) then
      skipComma first
      if ← nextIn [.key] then
        skip
        let entry ← readFlowPair .flowMappingEnd fuel
        return entry :: (← readFlowEntries false fuel)
      -- A comma may stand in front of the closing brace.
      else if !(← nextIn [.flowMappingEnd]) then
        let key ← read false false fuel
        return (key, missing) :: (← readFlowEntries false fuel)
    skip
    return []

end

/-! ### Documents -/

/-- Passes over the ends of documents. -/
def skipEnds : List Token → List Token := List.dropWhile (· = .documentEnd)

/-- The node of the only document, if there is one.  A document that is announced may be empty.  `fuel`
bounds the number of steps. -/
def readDocument (fuel : Nat) : Reader (Option Node) := do
  if (← get).isEmpty then return none
  let node ←
    if ← nextIn [.documentStart] then
      skip
      if (← get).isEmpty then pure missing
      else if ← nextIn [.documentStart, .documentEnd] then pure missing
      else read true false fuel
    else read true false fuel
  modify skipEnds
  if (← get).isEmpty then return some node else throw (.malformed .secondDocument)

/-- The node of a text, if it holds a document.  A fault in the reading of tokens counts if the tokens up
to there hold no other. -/
def ofText (text : List Char) : Except Fault (Option Node) :=
  let tokens := Tokens.ofText text
  match tokens.fault, (readDocument (3 * tokens.tokens.length + 3)).run tokens.tokens with
  | none, .ok (node, _) => .ok node
  | none, .error fault => .error fault
  | some fault, .ok _ => .error fault
  | some fault, .error (.malformed .unfinished) => .error fault
  | some _, .error fault => .error fault

end Node
end BenchCompare.Yaml
