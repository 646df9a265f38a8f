import BenchCompare.Text.Lines
import BenchCompare.Text.Quoted
import BenchCompare.Text.Similarity

/-!
# Words of a command line

  A word is an *option* if it starts with a dash and is longer than that, and an
  *argument* otherwise.

  - A long option may have its value behind an equals sign or in the next word.
  - Short options may share a word; one that takes a value has it in the rest of
    the word, or in the next word if there is no rest.
  - Behind the word `--` there are arguments only.
-/

namespace BenchCompare.Command

/-! ### Options -/

/-- An option as it is written. -/
structure Spelling (α : Type) where
  /-- The option. -/
  option : α
  /-- Its names, with their dashes. -/
  names : List String
  /-- Whether a value follows. -/
  takesValue : Bool

/-- Why words cannot be taken apart. -/
inductive WordFault
  /-- There is no option of this name, but perhaps some of similar names. -/
  | noSuchOption (name : Text) (similar : List String)
  /-- The value of an option is missing. -/
  | noValue (name : Text)
  /-- An option has a value and takes none. -/
  | strayValue (name : Text)
  deriving DecidableEq, Repr

/-- The names that may have been meant, as they end a message. -/
def suggestion : List String → String
  | [] => ""
  | [name] => s!" Did you mean {Text.quoted name}?"
  | names =>
    let listed := ", ".intercalate (names.map fun (name : String) => Text.quoted name)
    s!" (Did you mean one of: {listed}?)"

/-- The wording of a fault. -/
def WordFault.message : WordFault → String
  | noSuchOption name similar => s!"No such option {Text.quoted name}.{suggestion similar}"
  | noValue name => s!"Option {Text.quoted name} requires an argument."
  | strayValue name => s!"Option {Text.quoted name} does not take a value."

/-- Words taken apart. -/
structure Words (α : Type) where
  /-- The options with their values, in the order in which they were given. -/
  options : List (α × Option Text)
  /-- The arguments. -/
  arguments : List Text
  deriving DecidableEq

variable {α : Type}

/-- The option of a name. -/
def findOption (table : List (Spelling α)) (name : Text) : Option (Spelling α) :=
  table.find? fun s => s.names.any fun n => n = name

/-- Whether a word holds options. -/
def isOptionWord (word : Text) : Bool := 1 < word.length && word.toList.head? = some (.char '-')

/-- What a word gives: options, and the last one of them with its name if its value is still missing. -/
abbrev WordOptions (α : Type) := List (α × Option Text) × Option (α × Text)

/-- The short options that share a word. -/
def shortOptions (table : List (Spelling α)) : List CodePoint → Except WordFault (WordOptions α)
  | [] => .ok ([], none)
  | c :: rest =>
    let name := Text.ofList [.char '-', c]
    match findOption table name with
    | none => .error (.noSuchOption name [])
    | some s =>
      if s.takesValue then
        if rest.isEmpty then .ok ([], some (s.option, name))
        else .ok ([(s.option, some (Text.ofList rest))], none)
      else do
        let (others, last) ← shortOptions table rest
        return ((s.option, none) :: others, last)

/-- A long name and the value behind the equals sign. -/
def splitValue (word : Text) : Text × Option Text :=
  let cs := word.toList
  match cs.dropWhile (· ≠ .char '=') with
  | [] => (word, none)
  | _ :: value => (Text.ofList (cs.takeWhile (· ≠ .char '=')), some (Text.ofList value))

/-- Whether a name is a long one. -/
def isLong (name : Text) : Bool := name.toList.take 2 = [.char '-', .char '-']

/-- The long names of options. -/
def longNames (table : List (Spelling α)) : List String :=
  (table.flatMap (·.names)).filter fun (name : String) => isLong name

/-- The options in a word.  Only long names are compared with a name that is not there. -/
def wordOptions (table : List (Spelling α)) (word : Text) : Except WordFault (WordOptions α) :=
  if isLong word then
    let (name, value) := splitValue word
    match findOption table name, value with
    | none, _ => .error (.noSuchOption name (Text.similarNames (longNames table) name))
    | some s, some v =>
      if s.takesValue then .ok ([(s.option, some v)], none) else .error (.strayValue name)
    | some s, none =>
      if s.takesValue then .ok ([], some (s.option, name)) else .ok ([(s.option, none)], none)
  else shortOptions table word.toList.tail

/-! ### Words -/

/-- Words taken apart, if `mixed` options may follow arguments; otherwise the first argument and all that
follows it are arguments. -/
def Words.ofList (table : List (Spelling α)) (mixed : Bool) : List Text → Except WordFault (Words α)
  | [] => .ok ⟨[], []⟩
  | word :: rest =>
    if word = "--" then .ok ⟨[], rest⟩
    else if isOptionWord word then do
      let (options, open?) ← wordOptions table word
      match open?, rest with
      | none, rest => do
        let others ← Words.ofList table mixed rest
        return { others with options := options ++ others.options }
      | some (option, _), value :: rest => do
        let others ← Words.ofList table mixed rest
        return { others with options := options ++ (option, some value) :: others.options }
      | some (_, name), [] => .error (.noValue name)
    else if mixed then do
      let others ← Words.ofList table mixed rest
      return { others with arguments := word :: others.arguments }
    else .ok ⟨[], word :: rest⟩

/-- The last value of an option that was given. -/
def Words.value? [DecidableEq α] (words : Words α) (option : α) : Option Text :=
  (words.options.reverse.find? fun (o, _) => o = option).bind (·.2)

/-- Whether an option was given. -/
def Words.has [DecidableEq α] (words : Words α) (option : α) : Bool :=
  words.options.any fun (o, _) => o = option

/-- The options that were given, each once, in the order in which they were first given. -/
def Words.given [DecidableEq α] (words : Words α) : List α := (words.options.map (·.1)).eraseDups

end BenchCompare.Command
