import BenchCompare.Decimal.Exact
import BenchCompare.Decimal.Numeral
import BenchCompare.Log.Record
import BenchCompare.Settings.Basic
import BenchCompare.Text.Encode
import BenchCompare.Value.Text

/-!
# Resolving settings

  Settings come from a mapping and from overrides.  The *effective value* of a
  setting is its override if there is one that is not null, else its value in
  the mapping, which may be null, else there is none.  The settings depend on
  the effective values alone; keys of the mapping that name no setting are
  warned about, and those of the overrides are passed over.
-/

namespace BenchCompare

/-! ### Faults -/

/-- Why values make no settings. -/
inductive SettingsFault
  /-- What should map keys to values is a value of this kind. -/
  | noEntries (kind : String)
  /-- What should be a path is a value of this kind. -/
  | noPath (kind : String)
  /-- The least count is a truth value. -/
  | booleanCount
  /-- The least count is infinite. -/
  | infiniteCount
  /-- The least count is a value that denotes no integer. -/
  | noCount (v : Value)
  /-- A value that has to be shown cannot be shown. -/
  | unshown (reason : Unshown)

/-- The wording of a fault. -/
def SettingsFault.message : SettingsFault → Text
  | noEntries kind => s!"'{kind}' object has no attribute 'items'"
  | noPath kind =>
    if kind = "bytes" then
      "argument should be a str object or an os.PathLike object returning str, not <class 'bytes'>"
    else s!"expected str, bytes or os.PathLike object, not {kind}"
  | booleanCount => s!"{Setting.minCount.key} must be an integer, got a boolean"
  | infiniteCount => "cannot convert float infinity to integer"
  | noCount v => s!"{Setting.minCount.key} must be an integer, got " ++ v.literal
  | unshown .longInteger => Decimal.unwritableMessage
  | unshown .tooDeep => "maximum recursion depth exceeded while getting the repr of an object"

/-! ### Single values -/

/-- The path that a value stands for; `null` is no path. -/
def readPath : Value → Except SettingsFault (Option Path)
  | .null => .ok none
  | .str t => .ok (some (Path.ofText t))
  | v => .error (.noPath v.kind)

/-- The integer that a count stands for.  Places after the point are cut off. -/
def readCount (room : Nat) : Value → Except SettingsFault Int
  | .scalar (.bool _) => .error .booleanCount
  | .scalar (.int n) => .ok n
  | .scalar (.float x) =>
    match Decimal.Exact.ofFloat x with
    | .nan => .error (.noCount (.scalar (.float x)))
    | .infinite _ => .error .infiniteCount
    | .finite negative m e =>
      let whole : Int := (Decimal.numerator m e / Decimal.denominator e : Nat)
      .ok (if negative then -whole else whole)
  | .str t =>
    -- A numeral has no halves.
    match t.encode.toOption.map Decimal.readInteger with
    | some (.ok n) => .ok n
    | _ => .error (.noCount (.str t))
  | .scalar (.foreign ⟨_, _, _, some n⟩) => .ok n
  | v => .error ((v.unshown? room).elim (.noCount v) .unshown)

/-- The format that a value stands for: its text. -/
def readFormat (room : Nat) (v : Value) : Except SettingsFault Text :=
  (v.unshown? room).elim (.ok v.text) fun reason => .error (.unshown reason)

/-! ### Effective values -/

/-- The entries of a mapping. -/
abbrev Entries := List (Scalar × Value)

/-- Whether a key is the text `name`. -/
def Scalar.isStr (name : Text) : Scalar → Bool
  | str t => t = name
  | _ => false

/-- Whether a value is null. -/
def Value.isNull : Value → Bool
  | null => true
  | _ => false

/-- The value of a setting in a mapping. -/
def Entries.value? (entries : Entries) (s : Setting) : Option Value :=
  (entries.find? fun (k, _) => k.isStr s.key).map (·.2)

/-- The effective value of a setting. -/
def effective (mapping overrides : Entries) (s : Setting) : Option Value :=
  -- A null does not override, but a null in the mapping is a value.
  ((overrides.value? s).filter fun v => !v.isNull) <|> mapping.value? s

/-- The settings that effective values make.  Of two faults that of a path comes first. -/
def Settings.ofValues (room : Nat) (value? : Setting → Option Value) : Except SettingsFault Settings := do
  let path (s : Setting) : Except SettingsFault (Option Path) := readPath ((value? s).getD .null)
  let leftJob ← path .leftJob
  let rightJob ← path .rightJob
  let output ← path .output
  let minCount ← ((value? .minCount).map (readCount room)).getD (.ok Settings.default.minCount)
  let format ← ((value? .format).map (readFormat room)).getD (.ok Settings.default.format)
  return ⟨leftJob, rightJob, minCount, format, output⟩

/-! ### Unknown keys -/

/-- Whether a key names a setting. -/
def Scalar.isKnown (k : Scalar) : Bool := Setting.all.any fun s => k.isStr s.key

/-- The record of a key that names no setting. -/
def unknownKeyRecord (k : Scalar) : Log.Record :=
  ⟨.warning, Log.rootName, "Ignoring unknown config key: " ++ k.text⟩

/-- The records of the keys of a mapping that name no setting, in order. -/
def Entries.warnings (entries : Entries) : List Log.Record :=
  (entries.filter fun (k, _) => !k.isKnown).map fun (k, _) => unknownKeyRecord k

/-! ### Resolution -/

/-- What was logged, and the settings or why there are none. -/
structure Resolution where
  /-- The records, in order. -/
  log : List Log.Record
  /-- The outcome. -/
  result : Except SettingsFault Settings

/-- The settings of a mapping and overrides.  `room` is how deep lists and mappings may lie inside one
another in a value that has to be shown. -/
def resolve (room : Nat) (mapping overrides : Entries) : Resolution :=
  ⟨mapping.warnings, Settings.ofValues room (effective mapping overrides)⟩

/-- The entries of a value that should be a mapping. -/
def Value.entries : Value → Except SettingsFault Entries
  | mapping entries => .ok entries
  | v => .error (.noEntries v.kind)

/-- The settings of two JSON documents, of which the second one holds the overrides and may be blank. -/
def resolveDocuments (room : Nat) (mapping overrides : Json) : Resolution :=
  match (Value.ofJson mapping).entries with
  | .error fault => ⟨[], .error fault⟩
  | .ok entries =>
    match if overrides.isBlank then .ok [] else (Value.ofJson overrides).entries with
    | .error fault => ⟨entries.warnings, .error fault⟩
    | .ok changes => resolve room entries changes

end BenchCompare
