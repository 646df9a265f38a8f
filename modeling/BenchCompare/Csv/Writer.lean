import BenchCompare.Text.Basic

/-!
# Writing comma-separated records

  Fields are separated by commas and every record ends with a carriage return
  and a line feed.  A field that holds a comma, a quote or a line end stands
  between quotes, with each quote inside it doubled.  A record of one empty
  field is quoted too, since an empty line would be no record.
-/

namespace BenchCompare.Csv

/-- A record: the texts of its fields. -/
abbrev Record := List (List CodePoint)

/-- Whether a character forces its field to be quoted. -/
def isSpecial (c : CodePoint) : Bool := c = ',' || c = '"' || c = '\r' || c = '\n'

/-- The characters of a quoted field. -/
def escape : List CodePoint → List CodePoint
  | [] => []
  | c :: rest => if c = '"' then .char '"' :: .char '"' :: escape rest else c :: escape rest

/-- A field between quotes. -/
def quote (field : List CodePoint) : List CodePoint := .char '"' :: escape field ++ [.char '"']

/-- A field, quoted where it has to be. -/
def writeField (field : List CodePoint) : List CodePoint := if field.any isSpecial then quote field else field

/-- The end of a record. -/
def recordEnd : List CodePoint := [.char '\r', .char '\n']

/-- A record with its end. -/
def writeRecord (record : Record) : List CodePoint :=
  (if record = [[]] then quote [] else [.char ','].intercalate (record.map writeField)) ++ recordEnd

/-- Records, one after the other. -/
def write (records : List Record) : List CodePoint := records.flatMap writeRecord

end BenchCompare.Csv
