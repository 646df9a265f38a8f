import BenchCompare.Text.Basic

/-!
# Control sequences of terminals

  A terminal takes an escape character, a bracket, parameters, intermediate
  characters and a final character as a command, for instance to change the
  colour.  What is printed elsewhere than on a terminal is printed without such
  sequences.
-/

namespace BenchCompare.Text

/-- The character that starts a control sequence. -/
def escapeChar : CodePoint := '\x1b'

/-- Whether a character may stand right behind the bracket of a control sequence. -/
def isParameter (c : CodePoint) : Bool := c.fits fun c => '0' ≤ c && c ≤ '?'

/-- Whether a character may stand behind the parameters of a control sequence. -/
def isIntermediate (c : CodePoint) : Bool := c.fits fun c => ' ' ≤ c && c ≤ '/'

/-- Whether a character ends a control sequence. -/
def isFinal (c : CodePoint) : Bool := c.fits fun c => '@' ≤ c && c ≤ '~'

/-- What follows the control sequence that a text starts with, if it starts with one. -/
def afterSequence? : List CodePoint → Option (List CodePoint)
  | c :: .char '[' :: rest =>
    if c = escapeChar then
      match (rest.dropWhile isParameter).dropWhile isIntermediate with
      | last :: after => if isFinal last then some after else none
      | [] => none
    else none
  | _ => none

theorem length_afterSequence? {cs after : List CodePoint} (h : afterSequence? cs = some after) :
    after.length < cs.length := by
  unfold afterSequence? at h
  split at h
  · next c rest =>
    split at h
    · split at h
      · next last tail hd =>
        split at h
        · have hle := ((List.dropWhile_sublist isIntermediate).trans
            (List.dropWhile_sublist isParameter (l := rest))).length_le
          simp only [Option.some.injEq] at h
          subst h
          simp only [hd, List.length_cons] at hle ⊢
          omega
        · simp at h
      · simp at h
    · simp at h
  · simp at h

/-- A text without its control sequences.  `before` has the characters before it in reverse order. -/
def withoutSequencesFrom (before cs : List CodePoint) : List CodePoint :=
  match _h : afterSequence? cs with
  | some after => withoutSequencesFrom before after
  | none =>
    match cs with
    | [] => before.reverse
    | c :: rest => withoutSequencesFrom (c :: before) rest
termination_by cs.length
decreasing_by
  · exact length_afterSequence? _h
  · simp

/-- A text without its control sequences. -/
def withoutSequences (cs : List CodePoint) : List CodePoint := withoutSequencesFrom [] cs

/-- A text as it is printed elsewhere than on a terminal. -/
def unadorned (t : Text) : Text := ⟨withoutSequences t.toList⟩

example : unadorned "a\x1b[31mb\x1b[0m\x1b[c" = "ab" := by decide +kernel

end BenchCompare.Text
