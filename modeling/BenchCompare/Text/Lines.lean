/-!
# Lines

  Texts come with three kinds of line ends.  Before they are read, all of them
  are turned into line feeds.
-/

namespace BenchCompare.Text

/-- The text with every line end turned into a line feed: a carriage return, with the line feed behind it
if there is one. -/
def unifyLines : List Char → List Char
  | [] => []
  | '\r' :: '\n' :: rest => '\n' :: unifyLines rest
  | '\r' :: rest => '\n' :: unifyLines rest
  | c :: rest => c :: unifyLines rest

/-- The parts of a list between separators. -/
def splitOn {α : Type} [DecidableEq α] (separator : α) : List α → List (List α)
  | [] => [[]]
  | c :: rest =>
    if c = separator then [] :: splitOn separator rest
    else
      match splitOn separator rest with
      | [] => [[c]]
      | part :: parts => (c :: part) :: parts

end BenchCompare.Text
