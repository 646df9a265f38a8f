import BenchCompare.Yaml.Block
import BenchCompare.Yaml.Plain
import BenchCompare.Yaml.Quoted

/-!
# Tokens of YAML

  A token is an indicator, a scalar, or the start or the end of a block of
  lines that indentation makes.  A key is known to be one only when its colon
  comes: the token `key` is then put in front of it, and in front of that the
  start of a block mapping, if the key is the first one at its depth.  What
  may turn out to be a key must stand in one line and be short.
-/

namespace BenchCompare.Yaml

/-- A token. -/
inductive Token
  /-- A document starts. -/
  | documentStart
  /-- A document ends. -/
  | documentEnd
  /-- A list of indented items starts. -/
  | blockSequenceStart
  /-- A mapping of indented keys starts. -/
  | blockMappingStart
  /-- A list or mapping of indented lines ends. -/
  | blockEnd
  /-- A list in brackets starts. -/
  | flowSequenceStart
  /-- A list in brackets ends. -/
  | flowSequenceEnd
  /-- A mapping in braces starts. -/
  | flowMappingStart
  /-- A mapping in braces ends. -/
  | flowMappingEnd
  /-- A comma. -/
  | flowEntry
  /-- The dash of an item. -/
  | blockEntry
  /-- A key follows. -/
  | key
  /-- A value follows. -/
  | value
  /-- A scalar without quotes and indicators. -/
  | plain (text : String)
  /-- Any other scalar. -/
  | marked (text : Text)
  deriving DecidableEq, Repr

/-! ### Scanning -/

/-- A place where a key may have started. -/
structure PossibleKey where
  /-- The number of tokens before it. -/
  token : Nat
  /-- Whether nothing else than a key may stand there. -/
  required : Bool
  /-- The place. -/
  place : Cursor

/-- How far a key may go. -/
def maxKeyLength : Nat := 1024

/-- Whether something may still turn out to be a key when its colon comes at a place. -/
def PossibleKey.isFresh (k : PossibleKey) (c : Cursor) : Bool :=
  k.place.line = c.line && c.index - k.place.index ≤ maxKeyLength

/-- What is known in the midst of a text. -/
structure Scanner where
  /-- The number of characters of the text, which bounds the steps of every scalar. -/
  size : Nat
  /-- The place. -/
  cursor : Cursor
  /-- The tokens so far, the last one first. -/
  before : List Token
  /-- Their number. -/
  count : Nat
  /-- The columns of the open blocks, the innermost first. -/
  indents : List Nat
  /-- What may turn out to be a key, inside the innermost brackets. -/
  possible : Option PossibleKey
  /-- The same outside of the innermost brackets, for each pair of brackets around. -/
  outer : List (Option PossibleKey)
  /-- Whether a key may start here. -/
  keyAllowed : Bool

namespace Scanner

/-- The start of a text. -/
def start (text : List Char) : Scanner := ⟨text.length, .start text, [], 0, [], none, [], true⟩

/-- Whether the place is inside brackets. -/
def inFlow (s : Scanner) : Bool := !s.outer.isEmpty

/-- The least column of the lines of a scalar that starts here. -/
def depth (s : Scanner) : Nat := (s.indents.head?.map (· + 1)).getD 0

/-- The scanner with one more token. -/
def emit (s : Scanner) (t : Token) : Scanner := { s with before := t :: s.before, count := s.count + 1 }

/-- The scanner with one more token in front of the one of an index. -/
def emitAt (s : Scanner) (index : Nat) (t : Token) : Scanner :=
  -- The tokens run backwards, so the place is counted from the last one.
  { s with before := s.before.insertIdx (s.count - index) t, count := s.count + 1 }

/-- The scanner some characters on. -/
def skip (s : Scanner) (n : Nat) : Scanner := { s with cursor := s.cursor.advance n }

/-! ### Blocks -/

/-- Ends the blocks at the columns that satisfy a condition, from the innermost on; inside brackets there are
none to end. -/
def endWhile (s : Scanner) (p : Nat → Bool) : Scanner :=
  if s.inFlow then s
  else
    let ended := s.indents.takeWhile p
    -- Each column that is left ends one block.
    ended.foldl (fun s _ => s.emit .blockEnd) { s with indents := s.indents.dropWhile p }

/-- Ends the blocks that are deeper than a column. -/
def endBlocks (s : Scanner) (column : Nat) : Scanner := s.endWhile (column < ·)

/-- Ends all blocks. -/
def endAllBlocks (s : Scanner) : Scanner := s.endWhile fun _ => true

/-- Starts a block at a column, if the open ones are less deep.  Its token goes in front of the one of an
index. -/
def startBlock (s : Scanner) (column index : Nat) (t : Token) : Scanner :=
  if s.indents.head?.all (· < column) then
    { s.emitAt index t with indents := column :: s.indents }
  else s

/-- Starts a block here. -/
def startBlockHere (s : Scanner) (t : Token) : Scanner := s.startBlock s.cursor.column s.count t

/-! ### Possible keys -/

/-- Gives up on what may turn out to be a key. -/
def forgetKey (s : Scanner) : Except Fault Scanner :=
  if s.possible.any (·.required) then .error (.malformed .noColon)
  else .ok { s with possible := none }

/-- Notes that what starts here may turn out to be a key. -/
def noteKey (s : Scanner) : Except Fault Scanner :=
  if s.keyAllowed then do
    let s ← s.forgetKey
    -- At the column of an open block of lines only a key, or an item, can stand.
    let required := !s.inFlow && s.indents.head? = some s.cursor.column
    return { s with possible := some ⟨s.count, required, s.cursor⟩ }
  else .ok s

/-- Whether what may turn out to be a key can no longer do so. -/
def isStale (s : Scanner) (k : Option PossibleKey) : Bool := k.any fun k => !k.isFresh s.cursor

/-- The number of tokens that cannot change any more: all of them, or those in front of the first one that
may still turn out to be a key. -/
def settled (s : Scanner) : Nat :=
  let waiting := (s.possible :: s.outer).filter fun k => !s.isStale k
  waiting.foldl (fun n k => k.elim n fun k => min n k.token) s.count

/-- Forgets what can no longer turn out to be a key. -/
def dropStale (s : Scanner) : Except Fault Scanner :=
  if (s.possible :: s.outer).any fun k => s.isStale k && k.any (·.required) then
    .error (.malformed .noColon)
  else
    let fresh (k : Option PossibleKey) : Option PossibleKey := if s.isStale k then none else k
    .ok { s with possible := fresh s.possible, outer := s.outer.map fresh }

/-! ### Gaps between tokens -/

/-- Skips spaces, comments and line ends.  The result says whether there were line ends. -/
def skipGap (comment crossed : Bool) (c : Cursor) : Bool × Cursor :=
  match _h : c.rest with
  | [] => (crossed, c)
  | ch :: _ =>
    if isBreak ch then skipGap false true c.next
    else if comment || ch = ' ' || ch = '#' then skipGap (comment || ch = '#') crossed c.next
    else (crossed, c)
termination_by c.rest.length
decreasing_by all_goals exact Cursor.length_next _h

/-- Goes to the next token.  A mark of byte order at the start of the text is skipped. -/
def toToken (s : Scanner) : Scanner :=
  let c := if s.cursor.index = 0 ∧ s.cursor.peek = some byteOrderMark then s.cursor.next else s.cursor
  let (crossed, after) := skipGap false false c
  -- A new line may start a key, but inside brackets a comma or an opening bracket must come first.
  { s with cursor := after, keyAllowed := s.keyAllowed || (crossed && !s.inFlow) }

/-! ### Tokens -/

/-- The start or the end of a document. -/
def document (s : Scanner) (t : Token) : Except Fault Scanner := do
  let s ← s.endAllBlocks.forgetKey
  return { (s.skip 3).emit t with keyAllowed := false }

/-- An opening bracket. -/
def openFlow (s : Scanner) (t : Token) : Except Fault Scanner := do
  let s ← s.noteKey
  return { (s.skip 1).emit t with possible := none, outer := s.possible :: s.outer, keyAllowed := true }

/-- A closing bracket. -/
def closeFlow (s : Scanner) (t : Token) : Except Fault Scanner := do
  let s ← s.forgetKey
  match s.outer with
  | [] => .error (.malformed .strayToken)
  | possible :: outer =>
    return { (s.skip 1).emit t with possible := possible, outer := outer, keyAllowed := false }

/-- A comma. -/
def comma (s : Scanner) : Except Fault Scanner := do
  let s ← s.forgetKey
  return { (s.skip 1).emit .flowEntry with keyAllowed := true }

/-- The dash of an item. -/
def dash (s : Scanner) : Except Fault Scanner := do
  if !s.inFlow && !s.keyAllowed then throw (.malformed .strayItem)
  let s := if s.inFlow then s else s.startBlockHere .blockSequenceStart
  let s ← s.forgetKey
  return { (s.skip 1).emit .blockEntry with keyAllowed := true }

/-- The question mark of a key. -/
def question (s : Scanner) : Except Fault Scanner := do
  if !s.inFlow && !s.keyAllowed then throw (.malformed .strayKey)
  let s := if s.inFlow then s else s.startBlockHere .blockMappingStart
  let s ← s.forgetKey
  return { (s.skip 1).emit .key with keyAllowed := !s.inFlow }

/-- The colon of a value. -/
def colon (s : Scanner) : Except Fault Scanner := do
  let s ←
    match s.possible with
    | some k =>
      -- What was noted turns out to be a key, and perhaps the first one of a mapping.
      let s := { s.emitAt k.token .key with possible := none }
      let s := if s.inFlow then s else s.startBlock k.place.column k.token .blockMappingStart
      pure { s with keyAllowed := false }
    | none => do
      -- The key is missing, or a question mark stands in front of it.
      if !s.inFlow && !s.keyAllowed then throw (.malformed .strayValue)
      let s := if s.inFlow then s else s.startBlockHere .blockMappingStart
      pure { s with keyAllowed := !s.inFlow }
  return (s.skip 1).emit .value

/-- A block scalar. -/
def block (s : Scanner) (fold : Bool) : Except Fault Scanner := do
  let s ← s.forgetKey
  let (text, after) ← blockScalar s.size fold s.depth s.cursor
  return { s.emit (.marked text) with cursor := after, keyAllowed := true }

/-- A quoted scalar. -/
def quoted (s : Scanner) (double : Bool) : Except Fault Scanner := do
  let s ← s.noteKey
  let (text, after) ← quotedScalar s.size double s.cursor
  return { s.emit (.marked text) with cursor := after, keyAllowed := false }

/-- A plain scalar. -/
def plain (s : Scanner) : Except Fault Scanner := do
  let s ← s.noteKey
  let scalar := plainScalar s.size s.inFlow s.depth s.cursor
  return { s.emit (.plain scalar.text) with
    cursor := scalar.after, keyAllowed := scalar.breaksLine }

/-- The characters that start no plain scalar, whatever follows them. -/
def indicators : List Char :=
  [',', '[', ']', '\x7b', '\x7d', '#', '&', '*', '!', '|', '>', '\'', '"', '%', '@', '\x60']

/-- Whether a plain scalar starts with a character that another one follows. -/
def startsPlain (flow : Bool) (ch : Char) (follower : Option Char) : Bool :=
  if ch = '-' then !isGap follower
  else if ch = '?' ∨ ch = ':' then !flow && !isGap follower
  else !isSpace ch && !indicators.contains ch

/-- Reads the token here. -/
def token (s : Scanner) (ch : Char) (rest : List Char) : Except Fault Scanner :=
  let lineStart := s.cursor.column = 0
  let gapFollows := isGap rest.head?
  -- A marker at the start of a line wins over the dash that it starts with.
  if lineStart ∧ isMarker (ch :: rest) then
    s.document (if ch = '-' then .documentStart else .documentEnd)
  else if ch = '[' then s.openFlow .flowSequenceStart
  else if ch = '\x7b' then s.openFlow .flowMappingStart
  else if ch = ']' then s.closeFlow .flowSequenceEnd
  else if ch = '\x7d' then s.closeFlow .flowMappingEnd
  else if ch = ',' then s.comma
  else if ch = '-' ∧ gapFollows then s.dash
  else if ch = '?' ∧ (s.inFlow ∨ gapFollows) then s.question
  else if ch = ':' ∧ (s.inFlow ∨ gapFollows) then s.colon
  else if ch = '*' ∨ ch = '&' ∨ ch = '!' ∨ (ch = '%' ∧ lineStart) then .error (.malformed .unsupported)
  else if (ch = '|' ∨ ch = '>') ∧ !s.inFlow then s.block (ch = '>')
  else if ch = '\'' ∨ ch = '"' then s.quoted (ch = '"')
  else if startsPlain s.inFlow ch rest.head? then s.plain
  else .error (.malformed .strayCharacter)

/-- Goes to the next token and reads it; at the end of the text there is none. -/
def step (s : Scanner) : Except Fault (Scanner × Bool) := do
  let s ← s.toToken.dropStale
  match s.cursor.rest with
  | [] => do
    -- Blocks that are open end with the text.
    let s ← s.endAllBlocks.forgetKey
    return (s, false)
  | ch :: rest =>
    return (← (s.endBlocks s.cursor.column).token ch rest, true)

end Scanner

/-! ### Texts -/

/-- The tokens of a text, up to a fault. -/
structure Tokens where
  /-- The tokens, without those that are not settled when the fault is met. -/
  tokens : List Token
  /-- The fault behind them, if there is one. -/
  fault : Option Fault

/-- Reads at most `fuel` more tokens. -/
def Scanner.run : Nat → Scanner → Tokens
  | 0, s => ⟨s.before.reverse, none⟩
  | fuel + 1, s =>
    match s.step with
    | .error fault => ⟨s.before.reverse.take s.settled, some fault⟩
    | .ok (next, true) => next.run fuel
    | .ok (last, false) => ⟨last.before.reverse, none⟩

/-- The tokens of a text.  Each takes at least one character. -/
def Tokens.ofText (text : List Char) : Tokens :=
  if text.all isAllowed then (Scanner.start text).run (text.length + 1)
  else ⟨[], some (.malformed .forbiddenCharacter)⟩

end BenchCompare.Yaml
