import BenchCompare.Decimal.Numeral
import BenchCompare.Run.Record
import BenchCompare.Sample.Summary
import BenchCompare.Text.Encode
import BenchCompare.Value.Text

/-!
# Reading records from JSON

Records are read leniently.  A blank value (`null`, `false`, zero, or something empty) counts as missing
wherever an object, a list or a text is wanted; unknown fields are ignored; labels of any kind are taken
as text; and a value may be a number, a truth value, a numeral or `null`, which is no number.
-/

namespace BenchCompare

/-! ## Faults -/

/-- Why a value is no record. -/
inductive RecordFault
  /-- A record is no object but a value of this kind. -/
  | noFields (kind : String)
  /-- What should map names to values is a value of this kind. -/
  | noEntries (kind : String)
  /-- What should be a list of items is a value of this kind. -/
  | noItems (kind : String)
  /-- What should be a number is a value of this kind. -/
  | noNumber (kind : String)
  /-- What should be a number is a text that is no numeral. -/
  | badNumeral (text : Text)
  /-- An integer lies beyond all binary64 numbers. -/
  | hugeInteger
  deriving DecidableEq, Repr

/-- The wording of a fault. -/
def RecordFault.message : RecordFault → String
  | noFields kind => s!"'{kind}' object has no attribute 'get'"
  | noEntries kind => s!"'{kind}' object has no attribute 'items'"
  | noItems kind => s!"'{kind}' object is not iterable"
  | noNumber kind => s!"float() argument must be a string or a real number, not '{kind}'"
  | badNumeral text => s!"could not convert string to float: {Text.quoted text}"
  | hugeInteger => "int too large to convert to float"

/-! ## Parts of records -/

/-- The binary64 number nearest to an integer, if the integer is not beyond all of them. -/
def nearestFloat (n : Int) : Except RecordFault Float :=
  let x := Float.ofNat n.natAbs
  if x.isInf then .error .hugeInteger else .ok (if n < 0 then -x else x)

/-- A measured value. -/
def decodeNumber : Json → Except RecordFault Float
  | .null => .ok nan
  | .bool b => .ok (if b then 1 else 0)
  | .int n => nearestFloat n
  | .float x => .ok x
  | .str t =>
    -- A numeral has no halves.
    match t.encode.toOption.bind Decimal.readNumber with
    | some x => .ok x
    | none => .error (.badNumeral t)
  | j => .error (.noNumber j.kind)

/-- The fields of an object that may be missing. -/
def decodeEntries (j : Json) : Except RecordFault (List (Text × Json)) :=
  if j.isBlank then .ok []
  else
    match j with
    | .obj fields => .ok fields
    | j => .error (.noEntries j.kind)

/-- A label; `null` is the empty one. -/
def labelText : Json → Text
  | .null => ""
  | j => j.text

/-- The labels of a record. -/
def decodeLabels (j : Json) : Except RecordFault (List (Text × Text)) := do
  return (← decodeEntries j).map fun (name, v) => (name, labelText v)

/-! ## Records -/

/-- The percentile values of a data item. -/
def decodeValues (j : Json) : Except RecordFault (List (Text × Float)) := do
  (← decodeEntries j).mapM fun (name, v) => return (name, ← decodeNumber v)

/-- A data item. -/
def DataItem.decode : Json → Except RecordFault DataItem
  | .obj fields => do
    let values ← decodeValues (Json.lookup "data" fields)
    let unit := Json.lookup "unit" fields
    let labels ← decodeLabels (Json.lookup "labels" fields)
    return ⟨values, if unit.isBlank then .str "" else unit, labels⟩
  | j => .error (.noFields j.kind)

/-- The items of a group.  The parts of a text and of an object are texts, and a text is no item. -/
def decodeItems (j : Json) : Except RecordFault (List DataItem) :=
  if j.isBlank then .ok []
  else
    match j with
    | .arr items => items.mapM DataItem.decode
    | .str t => .error (.noFields (Json.str t).kind)
    | .obj _ => .error (.noFields (Json.str "").kind)
    | j => .error (.noItems j.kind)

/-- A group of data items. -/
def PerfData.decode : Json → Except RecordFault PerfData
  | .obj fields => do
    let version := Json.lookup "version" fields
    let items ← decodeItems (Json.lookup "dataItems" fields)
    let labels ← decodeLabels (Json.lookup "labels" fields)
    return ⟨if version.isBlank then "" else version.text, items, labels⟩
  | j => .error (.noFields j.kind)

/-! ## Runs -/

/-- Why a document is no run. -/
inductive RunFault
  /-- It is no object but a value of this kind. -/
  | noObject (kind : String)
  /-- What a test reported is no list of groups. -/
  | noGroups (test : Text)
  /-- Something among the groups of a test is no object. -/
  | noGroup (test : Text)
  /-- A group of a test cannot be read. -/
  | badGroup (test : Text) (fault : RecordFault)
  deriving DecidableEq, Repr

/-- The wording of a fault of the run in the file `source`. -/
def RunFault.message (source : Text) : RunFault → Text
  | noObject kind => source ++ ": expected a JSON object, got " ++ kind
  | noGroups test => source ++ ": test " ++ Text.quoted test ++ " must map to a list of perf data objects"
  | noGroup test => source ++ ": test " ++ Text.quoted test ++ " has a non-object perf data entry"
  | badGroup _ .hugeInteger => RecordFault.hugeInteger.message
  | badGroup test fault => source ++ ": malformed perf data for " ++ Text.quoted test ++ ": " ++ fault.message

/-- A group that a test reported. -/
def decodeGroup (test : Text) : Json → Except RunFault PerfData
  | .obj fields => (PerfData.decode (.obj fields)).mapError (.badGroup test)
  | _ => .error (.noGroup test)

/-- The groups that a test reported; a single group may stand without a list around it. -/
def decodeGroups (test : Text) : Json → Except RunFault (List PerfData)
  | .obj fields => return [← decodeGroup test (.obj fields)]
  | .arr groups => groups.mapM (decodeGroup test)
  | _ => .error (.noGroups test)

/-- A run. -/
def Run.decode : Json → Except RunFault Run
  | .obj fields => fields.mapM fun (test, groups) => return (test, ← decodeGroups test groups)
  | j => .error (.noObject j.kind)

end BenchCompare
