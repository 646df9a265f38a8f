import BenchCompare.Csv.Writer

/-!
# Reading comma-separated records

  The rules of the format, on their own: fields are separated by commas, records
  end with a carriage return and a line feed outside quotes, a field that starts
  with a quote goes on to the next quote that is not doubled, and a doubled
  quote in it stands for one.
-/

namespace BenchCompare.Csv

/-- Where a reader stands. -/
inductive Place
  /-- At the start of a record. -/
  | recordStart
  /-- At the start of a field behind a comma. -/
  | fieldStart
  /-- In a field without quotes. -/
  | plain
  /-- Between quotes. -/
  | quoted
  /-- Behind a quote that ends the field or is the first of two. -/
  | quoteSeen
  deriving DecidableEq, Repr

/-- Reads records from a place on.  The field being read and the fields of its record come in reverse
order.  There are no records if the text breaks off inside one, or if something follows a closing quote
other than a comma or the end of the record. -/
def readFrom (place : Place) (field : List CodePoint) (fields : Record) : List CodePoint → Option (List Record)
  | [] => if place = .recordStart then some [] else none
  | c :: rest =>
    let closed := field.reverse :: fields
    match place with
    | .quoted =>
      if c = '"' then readFrom .quoteSeen field fields rest
      else readFrom .quoted (c :: field) fields rest
    | .quoteSeen =>
      if c = '"' then readFrom .quoted (.char '"' :: field) fields rest
      else if c = ',' then readFrom .fieldStart [] closed rest
      else
        match c, rest with
        | .char '\r', .char '\n' :: rest => (readFrom .recordStart [] [] rest).map (closed.reverse :: ·)
        | _, _ => none
    | place =>
      -- A quote opens a field only at its start; inside a field without quotes it is text.
      if c = '"' ∧ place ≠ .plain then readFrom .quoted [] fields rest
      else if c = ',' then readFrom .fieldStart [] closed rest
      else
        match c, rest with
        | .char '\r', .char '\n' :: rest => (readFrom .recordStart [] [] rest).map (closed.reverse :: ·)
        | c, rest => readFrom .plain (c :: field) fields rest

/-- The records of a text. -/
def read (cs : List CodePoint) : Option (List Record) := readFrom .recordStart [] [] cs

end BenchCompare.Csv
