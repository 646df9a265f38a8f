import BenchCompare.Run.Record

/-!
# Writing records as JSON

The form in which records are stored: reading it back gives the record again.
-/

namespace BenchCompare

/-- Labels as an object. -/
def encodeLabels (labels : List (Text × Text)) : Json :=
  .obj (labels.map fun (name, v) => (name, .str v))

/-- A data item as an object. -/
def DataItem.encode (item : DataItem) : Json :=
  .obj [("data", .obj (item.values.map fun (name, x) => (name, .float x))), ("unit", item.unit),
    ("labels", encodeLabels item.labels)]

/-- A group as an object.  Labels are written only if there are any. -/
def PerfData.encode (group : PerfData) : Json :=
  .obj (("version", .str group.version) :: ("dataItems", .arr (group.items.map DataItem.encode)) ::
    if group.labels.isEmpty then [] else [("labels", encodeLabels group.labels)])

/-- A run as an object that maps each test to the list of its groups. -/
def Run.encode (run : Run) : Json :=
  .obj (run.map fun (test, groups) => (test, .arr (groups.map PerfData.encode)))

end BenchCompare
