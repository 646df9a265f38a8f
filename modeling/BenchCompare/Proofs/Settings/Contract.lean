import BenchCompare.Command.Run
import BenchCompare.Proofs.Job.Contract
import BenchCompare.Proofs.Settings.Faults
import BenchCompare.Yaml.Loader

/-! # What a configuration promises

  Those who read a configuration count on two kinds of faults: nothing lies at
  the path, or a value is bad.  Almost every fault is of these kinds, whatever the
  file holds and whatever library reads it.  The exceptions are listed, each with the
  situation that it comes from: `FileSystem.ConfigEscapes` for the file, and
  `SettingsEscapes` for the values in it.  What is given on the command line is never
  at fault.

  Main statement: `configuration_contract`, with a file behind it for which the
  promise is broken.
-/

namespace BenchCompare

/-! ### Kinds of faults -/

/-- The kind of a fault. -/
def ConfigFault.kind : ConfigFault → FaultKind
  | noFile _ | unreadable (.notFound _) => .missing
  | unreadable (.encoding _) | unreadable .nullCharacter | unreadable (.unencodable _) => .badValue
  | unreadable _ => .refused
  | thrown e => if e.isMistake then .badValue else .foreign
  | notYaml .. | noMapping _ => .badValue

/-- A fault says that a value is bad.  The others say that a value has the wrong type, that it is out of
range, or that it lies too deep. -/
def SettingsFault.IsBadValue : SettingsFault → Prop
  | booleanCount | noCount _ | unshown .longInteger => True
  | noEntries _ | noPath _ | infiniteCount | unshown .tooDeep => False

/-! ### Configuration files -/

namespace FileSystem

/-- The mapping that lies at a path; an empty document holds an empty one. -/
inductive HoldsConfig (yaml : YamlLoader) (fs : FileSystem) (p : Path) : Entries → Prop
  | empty {text : List Char} (read : fs.readText p = .ok text) (value : yaml text = .ok .null) :
      HoldsConfig yaml fs p []
  | mapping {text : List Char} {entries : Entries} (read : fs.readText p = .ok text)
      (value : yaml text = .ok (.mapping entries)) : HoldsConfig yaml fs p entries

/-- The situations in which a fault is of no kind that was promised. -/
inductive ConfigEscapes (yaml : YamlLoader) (fs : FileSystem) (p : Path) : ConfigFault → Prop
  /-- The file cannot be read, and not because of what it holds. -/
  | illegible {fault : FileFault} (file : fs.Illegible p fault)
      (refused : (ConfigFault.unreadable fault).kind = .refused) :
      ConfigEscapes yaml fs p (.unreadable fault)
  /-- The library lets out an exception that says of nothing that it is missing or bad. -/
  | library {text : List Char} {e : Thrown} (read : fs.readText p = .ok text)
      (thrown : yaml text = .error (.thrown e)) (other : e.isMistake = false) :
      ConfigEscapes yaml fs p (.thrown e)

/-- What those who load a configuration file are promised, and what not. -/
structure ConfigContract (yaml : YamlLoader) (fs : FileSystem) (p : Path) : Prop where
  /-- A mapping is returned exactly if the file holds it. -/
  returns : ∀ entries, loadConfig yaml fs p = .ok entries ↔ fs.HoldsConfig yaml p entries
  /-- A fault is a missing file or a bad value, or an exception. -/
  fails : ∀ fault, loadConfig yaml fs p = .error fault →
    fault.kind = .missing ∨ fault.kind = .badValue ∨ fs.ConfigEscapes yaml p fault
  /-- The file is said to be missing exactly if nothing lies at its path. -/
  missing : ∀ fault, loadConfig yaml fs p = .error fault →
    (fault.kind = .missing ↔ fs.holds p = .ok false)
  /-- The exceptions are no mere possibilities, and they are of other kinds. -/
  escapes : ∀ fault, fs.ConfigEscapes yaml p fault →
    loadConfig yaml fs p = .error fault ∧ (fault.kind = .refused ∨ fault.kind = .foreign)
  /-- Of what lies at a path, a directory alone is no file. -/
  directory : fs.IsTree → fs.ConfigEscapes yaml p (.unreadable (.isDirectory p)) →
    ∃ children, fs.find? p = some (.dir children)
  /-- The command line takes a fault for a mistake of the user exactly if it is of a promised kind. -/
  reported : ∀ fault, loadConfig yaml fs p = .error fault →
    ((Command.Failure.config fault).isMendable = true ↔
      fault.kind = .missing ∨ fault.kind = .badValue)

variable {yaml : YamlLoader} {fs : FileSystem} {p : Path}

theorem loadConfig_of_readText {text : List Char} (h : fs.readText p = .ok text) :
    loadConfig yaml fs p = parseConfig yaml p text := by
  simp only [loadConfig, holds_of_readText h, h]

theorem parseConfig_eq_ok_iff {p : Path} {text : List Char} {entries : Entries} :
    parseConfig yaml p text = .ok entries ↔
      yaml text = .ok .null ∧ entries = [] ∨ yaml text = .ok (.mapping entries) := by
  unfold parseConfig
  constructor
  · intro h
    split at h
    · next hvalue =>
      cases h
      exact .inl ⟨hvalue, rfl⟩
    · next hvalue =>
      cases h
      exact .inr hvalue
    all_goals cases h
  · rintro (⟨hvalue, rfl⟩ | hvalue)
    · rw [hvalue]
    · rw [hvalue]

/-- What a text that holds no mapping can come to. -/
theorem parseConfig_cases {text : List Char} (hread : fs.readText p = .ok text) {fault : ConfigFault}
    (h : parseConfig yaml p text = .error fault) :
    fault.kind = .badValue ∨ fs.ConfigEscapes yaml p fault := by
  unfold parseConfig at h
  split at h
  · cases h
  · cases h
  · cases h
    exact .inl rfl
  · cases h
    exact .inl rfl
  · next e hthrown =>
    cases h
    cases hmistake : e.isMistake with
    | true => exact .inl (if_pos hmistake)
    | false => exact .inr (.library hread hthrown hmistake)

/-- What a file that holds no mapping can come to. -/
theorem loadConfig_cases {fault : ConfigFault} (h : loadConfig yaml fs p = .error fault) :
    fs.holds p = .ok false ∧ fault = .noFile p ∨ fault.kind = .badValue ∨
      fs.ConfigEscapes yaml p fault := by
  have hillegible : ∀ {fileFault}, fs.Illegible p fileFault →
      (ConfigFault.unreadable fileFault).kind = .badValue ∨
        fs.ConfigEscapes yaml p (.unreadable fileFault) := by
    intro fileFault file
    cases file with
    | encoding => exact .inl rfl
    | tooLong path => exact .inr (.illegible (.tooLong path) rfl)
    | denied denied => exact .inr (.illegible (.denied denied) rfl)
    | noFile there read node => exact .inr (.illegible (.noFile there read node) rfl)
  unfold loadConfig at h
  split at h
  · next fileFault hholds =>
    cases h
    exact .inr (hillegible (illegible_of_holds hholds))
  · next hholds =>
    cases h
    exact .inl ⟨hholds, rfl⟩
  · next hholds =>
    rcases readText_cases hholds with ⟨text, htext⟩ | ⟨fileFault, hfault, file⟩
    · rw [htext] at h
      exact .inr (parseConfig_cases htext h)
    · rw [hfault] at h
      cases h
      exact .inr (hillegible file)

theorem loadConfig_eq_ok_iff {entries : Entries} :
    loadConfig yaml fs p = .ok entries ↔ fs.HoldsConfig yaml p entries := by
  constructor
  · intro h
    have hread : ∃ text, fs.readText p = .ok text := by
      unfold loadConfig at h
      split at h
      · cases h
      · cases h
      · split at h
        · cases h
        · next text htext => exact ⟨text, htext⟩
    obtain ⟨text, htext⟩ := hread
    rw [loadConfig_of_readText htext, parseConfig_eq_ok_iff] at h
    rcases h with ⟨hvalue, rfl⟩ | hvalue
    · exact .empty htext hvalue
    · exact .mapping htext hvalue
  · intro h
    cases h with
    | empty read value => rw [loadConfig_of_readText read, parseConfig_eq_ok_iff]; exact .inl ⟨value, rfl⟩
    | mapping read value => rw [loadConfig_of_readText read, parseConfig_eq_ok_iff]; exact .inr value

/-- In each of the situations loading does fail. -/
theorem loadConfig_of_escapes {fault : ConfigFault} (h : fs.ConfigEscapes yaml p fault) :
    loadConfig yaml fs p = .error fault := by
  cases h with
  | illegible file =>
    rcases file.fails with hholds | ⟨hholds, hread⟩
    · simp only [loadConfig, hholds]
    · simp only [loadConfig, hholds, hread]
  | library read thrown =>
    rw [loadConfig_of_readText read]
    unfold parseConfig
    rw [thrown]

theorem ConfigEscapes.kind {fault : ConfigFault} (h : fs.ConfigEscapes yaml p fault) :
    fault.kind = .refused ∨ fault.kind = .foreign := by
  cases h with
  | illegible _ refused => exact .inl refused
  | library _ _ other => exact .inr (if_neg (by rw [other]; exact Bool.false_ne_true))

theorem mendableConfig_iff (fault : ConfigFault) :
    Command.mendableConfig fault = true ↔ fault.kind = .missing ∨ fault.kind = .badValue := by
  cases fault with
  | unreadable fileFault =>
    cases fileFault <;> simp [Command.mendableConfig, Command.mendableFile, ConfigFault.kind]
  | thrown e => cases hmistake : e.isMistake <;> simp [Command.mendableConfig, ConfigFault.kind, hmistake]
  | _ => simp [Command.mendableConfig, ConfigFault.kind]

theorem configContract (yaml : YamlLoader) (fs : FileSystem) (p : Path) : ConfigContract yaml fs p where
  returns _ := loadConfig_eq_ok_iff
  fails fault h := by
    rcases loadConfig_cases h with ⟨-, rfl⟩ | hkind | hescapes
    · exact .inl rfl
    · exact .inr (.inl hkind)
    · exact .inr (.inr hescapes)
  missing fault h := by
    constructor
    · intro hkind
      rcases loadConfig_cases h with ⟨hholds, -⟩ | hbad | hescapes
      · exact hholds
      · rw [hkind] at hbad
        cases hbad
      · rcases hescapes.kind with hother | hother <;> rw [hkind] at hother <;> cases hother
    · intro hholds
      simp only [loadConfig, hholds] at h
      cases h
      rfl
  escapes fault h := ⟨loadConfig_of_escapes h, h.kind⟩
  directory hfs h := by
    cases h with
    | illegible file =>
      cases file with
      | noFile there read node => exact exists_dir_of_noFile hfs there node
  reported fault _ := mendableConfig_iff fault

end FileSystem

/-! ### Settings -/

/-- The situations in which values make no settings and none of them is said to be bad. -/
inductive SettingsEscapes (room : Nat) (value? : Setting → Option Value) : SettingsFault → Prop
  /-- The first path that will not do is no text. -/
  | noPath {v : Value}
      (first : FirstFault (Fine room value?) (fun s => value? s = some v ∧ ¬ v.IsPath) Setting.paths) :
      SettingsEscapes room value? (.noPath v.kind)
  /-- The least count is an infinite number. -/
  | infiniteCount {x : Float} (paths : ∀ s ∈ Setting.paths, Fine room value? s)
      (value : value? .minCount = some (.scalar (.float x))) (infinite : x.isInf = true) :
      SettingsEscapes room value? .infiniteCount
  /-- The least count is no number and no text, and it lies too deep to be shown in the message. -/
  | deepCount {v : Value} (paths : ∀ s ∈ Setting.paths, Fine room value? s)
      (value : value? .minCount = some v) (other : v.IsOther) (deep : v.Hides room .tooDeep) :
      SettingsEscapes room value? (.unshown .tooDeep)
  /-- The format lies too deep to be shown. -/
  | deepFormat {v : Value} (paths : ∀ s ∈ Setting.paths, Fine room value? s)
      (count : Fine room value? .minCount) (value : value? .format = some v)
      (deep : v.Hides room .tooDeep) : SettingsEscapes room value? (.unshown .tooDeep)

/-- What those who resolve the settings of a request are promised, and what not. -/
structure SettingsContract (room : Nat) (mapping : Entries) (r : Command.Request) : Prop where
  /-- Settings are returned exactly if every effective value will do. -/
  returns : (∃ c, (resolve room mapping r.overrides).result = .ok c) ↔
    ∀ s, Fine room (effective mapping r.overrides) s
  /-- A fault is a bad value, or an exception. -/
  fails : ∀ fault, (resolve room mapping r.overrides).result = .error fault →
    fault.IsBadValue ∨ SettingsEscapes room (effective mapping r.overrides) fault
  /-- The exceptions are no mere possibilities, and they are no bad values. -/
  escapes : ∀ fault, SettingsEscapes room (effective mapping r.overrides) fault →
    (resolve room mapping r.overrides).result = .error fault ∧ ¬ fault.IsBadValue
  /-- Of all values those in the mapping alone can be at fault. -/
  mapping : ∀ fault, (resolve room mapping r.overrides).result = .error fault →
    ∃ s v, mapping.value? s = some v ∧ v.Fails room fault s
  /-- The command line takes a fault for a mistake of the user exactly if it is a bad value. -/
  reported : ∀ fault, (Command.Failure.settings fault).isMendable = true ↔ fault.IsBadValue

theorem firstFault_append {α : Type} {fine faulty : α → Prop} (as bs : List α) :
    FirstFault fine faulty (as ++ bs) ↔
      FirstFault fine faulty as ∨ (∀ a ∈ as, fine a) ∧ FirstFault fine faulty bs := by
  induction as with
  | nil => simp [not_firstFault_nil]
  | cons a as ih =>
    rw [List.cons_append, firstFault_cons, firstFault_cons, ih, List.forall_mem_cons]
    tauto

theorem FirstFault.imp {α : Type} {fine faulty faulty' : α → Prop} {as : List α}
    (h : FirstFault fine faulty as) (himp : ∀ a ∈ as, faulty a → faulty' a) :
    FirstFault fine faulty' as := by
  obtain ⟨before, a, after, heq, hbefore, hfaulty⟩ := h
  refine ⟨before, a, after, heq, hbefore, himp a ?_ hfaulty⟩
  rw [heq]
  exact List.mem_append_right before List.mem_cons_self

theorem fails_iff_of_mem_paths {room : Nat} {s : Setting} (h : s ∈ Setting.paths) (v : Value)
    (fault : SettingsFault) : v.Fails room fault s ↔ ¬ v.IsPath ∧ fault = .noPath v.kind := by
  simp only [Setting.paths, List.mem_cons, List.not_mem_nil, or_false] at h
  rcases h with rfl | rfl | rfl <;> exact Iff.rfl

section

variable {room : Nat} {value? : Setting → Option Value} {fault : SettingsFault}

theorem firstFault_paths_iff :
    FirstFault (Fine room value?) (fun s => ∃ v, value? s = some v ∧ v.Fails room fault s)
        Setting.paths ↔
      ∃ v, fault = .noPath v.kind ∧
        FirstFault (Fine room value?) (fun s => value? s = some v ∧ ¬ v.IsPath) Setting.paths := by
  constructor
  · rintro ⟨before, s, after, heq, hbefore, v, hv, hfails⟩
    have hs : s ∈ Setting.paths := by
      rw [heq]
      exact List.mem_append_right before List.mem_cons_self
    obtain ⟨hno, hfault⟩ := (fails_iff_of_mem_paths hs v fault).mp hfails
    exact ⟨v, hfault, before, s, after, heq, hbefore, hv, hno⟩
  · rintro ⟨v, rfl, hfirst⟩
    apply hfirst.imp
    rintro s hs ⟨hv, hno⟩
    exact ⟨v, hv, (fails_iff_of_mem_paths hs v _).mpr ⟨hno, rfl⟩⟩

/-- The paths come first, then the least count, then the format. -/
theorem ofValues_eq_error_iff : Settings.ofValues room value? = .error fault ↔
    (∃ v, fault = .noPath v.kind ∧
      FirstFault (Fine room value?) (fun s => value? s = some v ∧ ¬ v.IsPath) Setting.paths) ∨
    (∀ s ∈ Setting.paths, Fine room value? s) ∧
      ((∃ v, value? .minCount = some v ∧ NoCount room v fault) ∨ Fine room value? .minCount ∧
        ∃ v, value? .format = some v ∧ ∃ reason, v.Hides room reason ∧ fault = .unshown reason) := by
  rw [(ends_ofValues room value?).error, Setting.checked, firstFault_append, firstFault_paths_iff]
  simp only [firstFault_cons, not_firstFault_nil, and_false, or_false, Value.Fails]

/-- What values that make no settings can come to. -/
theorem ofValues_cases (h : Settings.ofValues room value? = .error fault) :
    fault.IsBadValue ∨ SettingsEscapes room value? fault := by
  rcases ofValues_eq_error_iff.mp h with
    ⟨v, rfl, hfirst⟩ | ⟨hpaths, ⟨v, hv, hcount⟩ | ⟨hfine, hformat⟩⟩
  · exact .inr (.noPath hfirst)
  · cases hcount with
    | infinite hinfinite => exact .inr (.infiniteCount hpaths hv hinfinite)
    | @hidden _ reason other hidden =>
      cases reason with
      | longInteger => exact .inl trivial
      | tooDeep => exact .inr (.deepCount hpaths hv other hidden)
    | _ => exact .inl trivial
  · obtain ⟨v, hv, reason, hidden, rfl⟩ := hformat
    cases reason with
    | longInteger => exact .inl trivial
    | tooDeep => exact .inr (.deepFormat hpaths hfine hv hidden)

/-- In each of the situations the values make no settings. -/
theorem ofValues_of_escapes (h : SettingsEscapes room value? fault) :
    Settings.ofValues room value? = .error fault := by
  rw [ofValues_eq_error_iff]
  cases h with
  | noPath first => exact .inl ⟨_, rfl, first⟩
  | infiniteCount paths value infinite => exact .inr ⟨paths, .inl ⟨_, value, .infinite infinite⟩⟩
  | deepCount paths value other deep => exact .inr ⟨paths, .inl ⟨_, value, .hidden other deep⟩⟩
  | deepFormat paths count value deep => exact .inr ⟨paths, .inr ⟨count, _, value, _, deep, rfl⟩⟩

theorem SettingsEscapes.not_isBadValue (h : SettingsEscapes room value? fault) : ¬ fault.IsBadValue := by
  cases h <;> exact id

end

/-! ### Requests -/

/-- What a request says about a setting; null if it says nothing. -/
def Command.Request.value (r : Command.Request) : Setting → Value
  | .leftJob => textValue r.left
  | .rightJob => textValue r.right
  | .minCount => r.minCount.elim .null fun n => .scalar (.int n)
  | .format => textValue r.format
  | .output => textValue r.output

theorem value?_overrides (r : Command.Request) (s : Setting) :
    r.overrides.value? s = some (r.value s) := by
  cases s <;> rfl

theorem suits_of_given {room : Nat} {r : Command.Request} {s : Setting}
    (h : (r.value s).isNull = false) : (r.value s).Suits room s := by
  have hpath : ∀ path : Option Text, (Command.Request.textValue path).IsPath := by
    intro path
    cases path with
    | none => exact .null
    | some path => exact .str _
  cases s with
  | leftJob => exact hpath r.left
  | rightJob => exact hpath r.right
  | output => exact hpath r.output
  | minCount =>
    unfold Command.Request.value at h ⊢
    cases hcount : r.minCount with
    | none =>
      rw [hcount] at h
      cases h
    | some n => exact .int n
  | format =>
    unfold Command.Request.value at h ⊢
    cases hformat : r.format with
    | none =>
      rw [hformat] at h
      cases h
    | some text => exact .scalar rfl

/-- A value that a request gives will do, and what it does not give is that of the mapping. -/
theorem suits_or_mapping {room : Nat} {mapping : Entries} {r : Command.Request} {s : Setting} {v : Value}
    (h : effective mapping r.overrides s = some v) : v.Suits room s ∨ mapping.value? s = some v := by
  unfold effective at h
  rw [value?_overrides] at h
  cases hnull : (r.value s).isNull with
  | true =>
    simp only [Option.filter, hnull, Bool.not_true] at h
    exact .inr h
  | false =>
    simp only [Option.filter, hnull, Bool.not_false] at h
    cases h
    exact .inl (suits_of_given hnull)

theorem mendableSettings_iff (fault : SettingsFault) :
    Command.mendableSettings fault = true ↔ fault.IsBadValue := by
  cases fault with
  | unshown reason => cases reason <;> simp [Command.mendableSettings, SettingsFault.IsBadValue]
  | _ => simp [Command.mendableSettings, SettingsFault.IsBadValue]

theorem settingsContract (room : Nat) (mapping : Entries) (r : Command.Request) :
    SettingsContract room mapping r where
  returns := (ends_ofValues room (effective mapping r.overrides)).ok
  fails fault h := ofValues_cases h
  escapes fault h := ⟨ofValues_of_escapes h, h.not_isBadValue⟩
  mapping fault h := by
    have hfirst := ((ends_ofValues room (effective mapping r.overrides)).error fault).mp h
    obtain ⟨-, s, -, -, -, v, hv, hfails⟩ := hfirst
    rcases suits_or_mapping hv with hsuits | hmapping
    · exact absurd hfails (hsuits.not_fails fault)
    · exact ⟨s, v, hmapping, hfails⟩
  reported := mendableSettings_iff

/-! ### Main statement -/

/-- **What a configuration promises**, about the file and about the settings that come out of it. -/
theorem configuration_contract (yaml : YamlLoader) (fs : FileSystem) (p : Path) (room : Nat)
    (mapping : Entries) (r : Command.Request) :
    fs.ConfigContract yaml p ∧ SettingsContract room mapping r :=
  ⟨fs.configContract yaml p, settingsContract room mapping r⟩

/-- The path of a configuration file. -/
def configPath : Path := ⟨0, ["compare.yaml"]⟩

/-- A directory that holds a single configuration file. -/
def onlyConfig (text : List Char) : FileSystem :=
  ⟨.dir [("compare.yaml", .file (Text.asciiFile text))], [], .all⟩

/-- A request that says nothing but where the configuration file lies. -/
def configRequest : Command.Request :=
  ⟨none, none, some "compare.yaml", none, none, none, false, false, none⟩

theorem find?_onlyConfig (text : List Char) :
    (onlyConfig text).find? configPath = some (.file (Text.asciiFile text)) := by cbv

theorem find?_here_onlyConfig (text : List Char) :
    (onlyConfig text).find? ⟨0, []⟩ = some (onlyConfig text).root := by cbv

theorem mayRead_here_onlyConfig (text : List Char) : (onlyConfig text).mayRead ⟨0, []⟩ = true := by cbv

theorem readText_onlyConfig {text : List Char}
    (h : (text.all fun c => c.toNat < 0x80 && c ≠ '\r') = true) :
    (onlyConfig text).readText configPath = .ok text :=
  FileSystem.readText_of_asciiFile ⟨find?_onlyConfig text, by cbv⟩ h

/-- Nothing is wrong with the paths of a mapping that says nothing about them. -/
theorem fine_paths_of_single {room : Nat} {s : Setting} (hs : s ∉ Setting.paths) (v : Value) :
    ∀ t ∈ Setting.paths, Fine room (effective [(.str s.key, v)] configRequest.overrides) t := by
  intro t ht w hw
  have hne : s ≠ t := by
    rintro rfl
    exact hs ht
  have hnone : effective [(.str s.key, v)] configRequest.overrides t = none := by
    cases s <;> cases t <;> first | rfl | exact absurd rfl hne
  rw [hnone] at hw
  cases hw

/-- The left job is a list, and the least count is infinite. -/
def listedJobMapping : Entries :=
  [(.str "min_allowed_request_count", .scalar (.float (-negInfinity))),
    (.str "left_job", .list [.str "a"])]

/-- No file lies at the path, and of two values that are not said to be bad the path comes first. -/
theorem configuration_contract_listedJob :
    loadConfig Yaml.load (onlyConfig []) ⟨0, []⟩ = .error (.unreadable (.isDirectory ⟨0, []⟩)) ∧
      (resolve Value.usualRoom listedJobMapping configRequest.overrides).result = .error (.noPath "list") ∧
      ¬ SettingsFault.IsBadValue (.noPath "list") := by
  obtain ⟨hconfig, hsettings⟩ :=
    configuration_contract Yaml.load (onlyConfig []) ⟨0, []⟩ Value.usualRoom listedJobMapping
      configRequest
  have hdir := find?_here_onlyConfig []
  have hnode : ∀ content, (onlyConfig []).find? ⟨0, []⟩ ≠ some (.file content) := by
    intro content h
    cases hdir.symm.trans h
  have hdirectory : (onlyConfig []).ConfigEscapes Yaml.load ⟨0, []⟩ _ :=
    .illegible (.noFile (FileSystem.holds_of_find? hdir) (mayRead_here_onlyConfig []) hnode) rfl
  have hlist : ¬ (Value.list [.str "a"]).IsPath := nofun
  have hfirst : SettingsEscapes Value.usualRoom (effective listedJobMapping configRequest.overrides)
      (.noPath "list") := .noPath ⟨[], .leftJob, [.rightJob, .output], rfl, nofun, rfl, hlist⟩
  obtain ⟨hresult, hbad⟩ := hsettings.escapes _ hfirst
  exact ⟨(hconfig.escapes _ hdirectory).1, hresult, hbad⟩

/-- A configuration with an infinite count. -/
def infiniteConfig : List Char := "min_allowed_request_count: .inf\n".toList

/-- Whether what was read is a mapping with nothing in it but an infinite count. -/
def isInfiniteCount : Except YamlFault Value → Bool
  | .ok (.mapping [(.str key, .scalar (.float x))]) => key = Setting.minCount.key && x.isInf
  | _ => false

theorem parse_infiniteConfig : ∃ x : Float, x.isInf = true ∧
    Yaml.load infiniteConfig = .ok (.mapping [(.str Setting.minCount.key, .scalar (.float x))]) := by
  have hvalue : isInfiniteCount (Yaml.load infiniteConfig) = true := by decide +kernel
  unfold isInfiniteCount at hvalue
  split at hvalue
  · next key x hparse =>
    rw [Bool.and_eq_true, decide_eq_true_iff] at hvalue
    obtain ⟨rfl, hinfinite⟩ := hvalue
    exact ⟨x, hinfinite, hparse⟩
  · cases hvalue

/-- The file is there, it holds a mapping, and the fault of its settings is no bad value. -/
theorem infiniteCount_not_bad :
    ∃ mapping, loadConfig Yaml.load (onlyConfig infiniteConfig) configPath = .ok mapping ∧
      (resolve Value.usualRoom mapping configRequest.overrides).result = .error .infiniteCount ∧
      ¬ SettingsFault.infiniteCount.IsBadValue ∧
      (Command.Failure.settings .infiniteCount).isMendable = false := by
  obtain ⟨x, hinfinite, hparse⟩ := parse_infiniteConfig
  have hread : (onlyConfig infiniteConfig).readText configPath = .ok infiniteConfig :=
    readText_onlyConfig (by decide +kernel)
  have hvalue : effective [(.str Setting.minCount.key, .scalar (.float x))] configRequest.overrides
      .minCount = some (.scalar (.float x)) := rfl
  refine ⟨_, FileSystem.loadConfig_eq_ok_iff.mpr (.mapping hread hparse), ?_, id, rfl⟩
  exact ofValues_of_escapes (.infiniteCount (fine_paths_of_single (by decide) _) hvalue hinfinite)

/-- A format that is one list more than there is room for is no bad value either. -/
theorem deepFormat_not_bad (room : Nat) :
    (resolve room [(.str Setting.format.key, .nested (room + 1))] configRequest.overrides).result =
        .error (.unshown .tooDeep) ∧
      ¬ (SettingsFault.unshown .tooDeep).IsBadValue := by
  have hcount : Fine room (effective [(.str Setting.format.key, .nested (room + 1))]
      configRequest.overrides) .minCount := nofun
  have hdeep : (Value.nested (room + 1)).Hides room .tooDeep := Value.hides_nested room.lt_succ_self
  exact ⟨ofValues_of_escapes (.deepFormat (fine_paths_of_single (by decide) _) hcount rfl hdeep), id⟩

end BenchCompare
