import BenchCompare.Text.Basic

/-!
# Similar names

  What two names have in common is found block by block: their longest common
  block, and then what they have in common in front of it and behind it.  Two
  names are *similar* if the characters in common make up three fifths of the
  characters of both.
-/

namespace BenchCompare.Text

/-! ### Common blocks -/

/-- A block that two lists have in common. -/
structure CommonBlock where
  /-- Its length. -/
  length : Nat
  /-- The number of characters in front of it in the first list. -/
  left : Nat
  /-- The number of characters in front of it in the second list. -/
  right : Nat

variable {α : Type} [DecidableEq α]

/-- The number of places with which two lists start alike. -/
def commonStart : List α → List α → Nat
  | a :: as, b :: bs => if a = b then commonStart as bs + 1 else 0
  | _, _ => 0

/-- The blocks that start at each pair of places, by the place in the first list. -/
def commonBlocks (a b : List α) : List CommonBlock :=
  (List.range a.length).flatMap fun i =>
    (List.range b.length).map fun j => ⟨commonStart (a.drop i) (b.drop j), i, j⟩

/-- The longest common block: of several the one that starts first in the first list, and then first in the
second. -/
def longestBlock (a b : List α) : CommonBlock :=
  (commonBlocks a b).foldl (fun best k => if best.length < k.length then k else best) ⟨0, 0, 0⟩

/-- The number of places that two lists have in common. -/
def inCommon (a b : List α) : Nat :=
  match longestBlock a b with
  | ⟨length, left, right⟩ =>
    -- The first condition always holds of a block that is not empty.
    if _h : left < a.length ∧ 0 < length then
      inCommon (a.take left) (b.take right) + length +
        inCommon (a.drop (left + length)) (b.drop (right + length))
    else 0
termination_by a.length
decreasing_by
  · simp only [List.length_take]; omega
  · simp only [List.length_drop]; omega

/-! ### Similarity -/

/-- How similar a name is to a word: the characters in common, of so many characters. -/
structure Similarity where
  /-- The name. -/
  name : String
  /-- The number of characters in common, each counted in both. -/
  shared : Nat
  /-- The number of characters of both. -/
  size : Nat

/-- How similar a name is to a word. -/
def Similarity.of (word : Text) (name : String) : Similarity :=
  ⟨name, 2 * inCommon (name : Text).toList word.toList, name.length + word.length⟩

/-- Whether three fifths of the characters are in common. -/
def Similarity.isClose (s : Similarity) : Bool := 3 * s.size ≤ 5 * s.shared

/-- Whether one name comes before another: it is more similar, or as similar and later in the order of
names. -/
def Similarity.isBefore (s t : Similarity) : Bool :=
  t.shared * s.size < s.shared * t.size || (t.shared * s.size = s.shared * t.size && t.name ≤ s.name)

/-- Whether the lengths alone allow a name to be similar to a word, as the shorter one bounds what they can
have in common. -/
def mayBeClose (word : Text) (name : String) : Bool :=
  3 * (name.length + word.length) ≤ 10 * min name.length word.length

/-- The names that are similar to a word, at most three, in the order of names. -/
def similarNames (names : List String) (word : Text) : List String :=
  let close := ((names.filter (mayBeClose word)).map (.of word)).filter Similarity.isClose
  (((close.mergeSort Similarity.isBefore).take 3).map (·.name)).mergeSort fun a b => decide (a ≤ b)

example : inCommon ['a', 'b', 'c'] ['a', 'c'] = 2 := by cbv

end BenchCompare.Text
