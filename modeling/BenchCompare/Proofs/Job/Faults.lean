import BenchCompare.Job.Load
import BenchCompare.Proofs.File.Lookup
import BenchCompare.Proofs.Json.LongInteger
import BenchCompare.Proofs.Run.Oversized

/-! # What the faults of loading tell

  Those who load a run count on two kinds of faults: nothing lies at the path, or
  a value is bad and the message says in which file (`Promised`).  Almost every
  fault is of these kinds.  The exceptions are listed in `Escapes`, each with the
  situation that it comes from:

  * the path is too long for any file,
  * the path may not be followed, or what lies there may not be read,
  * no file lies at the path, but something else does,
  * the bytes of the file are no UTF-8,
  * the file holds an integer with too many digits,
  * the file holds containers inside one another to a depth that is not read,
  * a value is an integer beyond all binary64 numbers.

  The first three have to do with the path, the others with what the file holds.

  Main statements: `readRun_cases`, which says that this is all that can happen,
  and `readRun_of_escapes`, which says that each of it does happen.
-/

namespace BenchCompare

/-! ### Kinds of faults -/

/-- The kinds of faults that those who load a job tell apart. -/
inductive FaultKind
  /-- Nothing lies at the path. -/
  | missing
  /-- What was read has a bad value. -/
  | badValue
  /-- A number is out of range. -/
  | overflow
  /-- The file system refuses the path. -/
  | refused
  /-- There is no room for what is nested so deep. -/
  | exhausted
  /-- A library lets something else out. -/
  | foreign
  deriving DecidableEq

/-- The kind of a fault. -/
def LoadFault.kind : LoadFault → FaultKind
  | noRun _ | noJob _ | unreadable (.notFound _) => .missing
  | unreadable (.encoding _) | unreadable .nullCharacter | unreadable (.unencodable _) => .badValue
  | notJson .. | longInteger _ => .badValue
  | notRun _ (.badGroup _ .hugeInteger) => .overflow
  | notRun .. => .badValue
  | tooDeep _ => .exhausted
  | unreadable _ => .refused

/-- A message says about a file what is wrong. -/
def Names (p : Path) (message : Text) : Prop := ∃ what, message = p.text ++ (": " ++ what)

namespace FileSystem

/-- A run lies at a path. -/
def HoldsRun (depth : Nat) (fs : FileSystem) (p : Path) : Prop :=
  ∃ text j, fs.readText p = .ok text ∧ Json.parse depth text = .ok j ∧ j.IsRun

/-- A path may not be followed to its end, or what lies there may not be read. -/
def Denied (fs : FileSystem) (p : Path) : Prop :=
  fs.resolve p = .error .denied ∨ fs.holds p = .ok true ∧ fs.mayRead p = false

/-- A file lies at a path that may be read. -/
def HoldsBytes (fs : FileSystem) (p : Path) (content : ByteArray) : Prop :=
  fs.find? p = some (.file content) ∧ fs.mayRead p = true

/-- A fault is as it was promised. -/
inductive Promised (fs : FileSystem) (p : Path) (fault : LoadFault) : Prop
  | missing (kind : fault.kind = .missing) (nothing : fs.holds p = .ok false)
  | named (kind : fault.kind = .badValue) (names : Names p fault.message)

/-- The situations in which a file cannot be read as text, although it is not missing. -/
inductive Illegible (fs : FileSystem) (p : Path) : FileFault → Prop
  | tooLong (path : fs.resolve p = .error .tooLong) : Illegible fs p (.tooLong p)
  | denied (denied : fs.Denied p) : Illegible fs p (.denied p)
  | noFile (there : fs.holds p = .ok true) (read : fs.mayRead p = true)
      (node : ∀ content, fs.find? p ≠ some (.file content)) : Illegible fs p (.isDirectory p)
  | encoding {content : ByteArray} {f : Text.Utf8Fault} (file : fs.HoldsBytes p content)
      (bytes : Text.decode content = .error f) : Illegible fs p (.encoding f)

/-- The situations in which a fault is not as it was promised. -/
inductive Escapes (depth : Nat) (fs : FileSystem) (p : Path) : LoadFault → Prop
  | illegible {fault : FileFault} (file : fs.Illegible p fault) : Escapes depth fs p (.unreadable fault)
  | longInteger {text : List Char} {d : Nat} (read : fs.readText p = .ok text)
      (integer : Json.parse depth text = .error (.longInteger d)) : Escapes depth fs p (.longInteger d)
  | tooDeep {text : List Char} {container : String} (read : fs.readText p = .ok text)
      (nested : Json.parse depth text = .error (.tooDeep container)) : Escapes depth fs p (.tooDeep container)
  | overflow {text : List Char} {j : Json} {test : Text} (read : fs.readText p = .ok text)
      (parsed : Json.parse depth text = .ok j) (integer : j.Overflows test) :
      Escapes depth fs p (.notRun p (.badGroup test .hugeInteger))

end FileSystem

/-! ### Messages -/

theorem names_start {p : Path} {start what : Text} (h : start = ": " ++ what) :
    Names p (p.text ++ start) := by
  subst h
  exact ⟨what, rfl⟩

theorem Names.append {p : Path} {message : Text} (h : Names p message) (more : Text) :
    Names p (message ++ more) := by
  obtain ⟨what, rfl⟩ := h
  exact ⟨what ++ more, by rw [Text.append_assoc, Text.append_assoc]⟩

theorem RunFault.names (p : Path) {fault : RunFault}
    (h : ∀ test, fault ≠ .badGroup test .hugeInteger) : Names p (fault.message p.text) := by
  cases fault with
  | noObject kind =>
    have hstart : (": expected a JSON object, got " : Text) = ": " ++ "expected a JSON object, got " := rfl
    exact (names_start hstart).append _
  | noGroups test =>
    have hstart : (": test " : Text) = ": " ++ "test " := rfl
    exact ((names_start hstart).append _).append _
  | noGroup test =>
    have hstart : (": test " : Text) = ": " ++ "test " := rfl
    exact ((names_start hstart).append _).append _
  | badGroup test fault =>
    have hstart : (": malformed perf data for " : Text) = ": " ++ "malformed perf data for " := rfl
    cases fault with
    | hugeInteger => exact absurd rfl (h test)
    | _ => exact (((names_start hstart).append _).append _).append _

theorem LoadFault.names_notJson (p : Path) (cause : Json.Cause) (line column index : Nat) :
    Names p (LoadFault.notJson p cause line column index).message := by
  unfold LoadFault.message
  apply names_start
  have hstart : ": invalid JSON: " = ": " ++ "invalid JSON: " := rfl
  simp only [hstart, toString, String.append_assoc]
  exact Text.ofString_append _ _

theorem LoadFault.kind_notRun (p : Path) {fault : RunFault}
    (h : ∀ test, fault ≠ .badGroup test .hugeInteger) : (LoadFault.notRun p fault).kind = .badValue := by
  cases fault with
  | badGroup test fault =>
    cases fault with
    | hugeInteger => exact absurd rfl (h test)
    | _ => rfl
  | _ => rfl

/-! ### The text of a run -/

variable {depth : Nat}

theorem Run.parse_of_json {text : List Char} {j : Json} (h : Json.parse depth text = .ok j) (p : Path) :
    Run.parse depth p text = (Run.decode j).mapError (.notRun p) := by
  unfold Run.parse
  rw [h]

theorem Run.parse_eq_ok_iff {p : Path} {text : List Char} {run : Run} :
    Run.parse depth p text = .ok run ↔ ∃ j, Json.parse depth text = .ok j ∧ Run.decode j = .ok run := by
  constructor
  · intro h
    cases hj : Json.parse depth text with
    | ok j =>
      rw [Run.parse_of_json hj] at h
      refine ⟨j, rfl, ?_⟩
      cases hdecode : Run.decode j with
      | ok run' =>
        rw [hdecode] at h
        cases h
        rfl
      | error fault =>
        rw [hdecode] at h
        cases h
    | error fault =>
      unfold Run.parse at h
      rw [hj] at h
      cases fault <;> cases h
  · rintro ⟨j, hj, hdecode⟩
    rw [Run.parse_of_json hj, hdecode]
    rfl

/-! ### One run -/

namespace FileSystem

variable {fs fs' : FileSystem} {p q : Path}

theorem loadRun_result (depth : Nat) (fs : FileSystem) (p : Path) :
    (loadRun depth fs p).result = readRun depth fs p := by
  unfold loadRun
  cases readRun depth fs p <;> rfl

theorem exists_file_of_readText {text : List Char} (h : fs.readText p = .ok text) :
    ∃ content, fs.HoldsBytes p content := by
  unfold readText at h
  split at h
  · cases h
  · next names hnames =>
    split at h
    · cases h
    · next hread =>
      split at h
      · next content hcontent =>
        refine ⟨content, ?_, ?_⟩
        · unfold find?
          rw [hnames]
          exact hcontent
        · rw [mayRead_of_resolve hnames]
          simpa using hread
      · cases h

theorem HoldsBytes.readText {content : ByteArray} (h : fs.HoldsBytes p content) :
    fs.readText p = ((Text.decode content).map Text.unifyLines).mapError .encoding :=
  readText_of_file h.1 h.2

theorem HoldsBytes.holds {content : ByteArray} (h : fs.HoldsBytes p content) : fs.holds p = .ok true :=
  holds_of_find? h.1

theorem holds_of_readText {text : List Char} (h : fs.readText p = .ok text) :
    fs.holds p = .ok true := by
  obtain ⟨content, hcontent⟩ := exists_file_of_readText h
  exact hcontent.holds

theorem readRun_of_unreadable {fault : FileFault} (hholds : fs.holds p = .ok true)
    (h : fs.readText p = .error fault) : readRun depth fs p = .error (.unreadable fault) := by
  simp only [readRun, hholds, h]

theorem readRun_of_readText {text : List Char} (h : fs.readText p = .ok text) :
    readRun depth fs p = Run.parse depth p text := by
  simp only [readRun, holds_of_readText h, h]

/-- A path at which it cannot be told what lies is too long, or it may not be followed. -/
theorem illegible_of_holds {fault : FileFault} (h : fs.holds p = .error fault) : fs.Illegible p fault := by
  obtain ⟨m, hresolve, hm, rfl⟩ := holds_eq_error_iff.mp h
  cases m with
  | tooLong => exact .tooLong hresolve
  | denied => exact .denied (.inl hresolve)
  | _ => cases hm

/-- What reading a file that is there can come to. -/
theorem readText_cases (h : fs.holds p = .ok true) :
    (∃ text, fs.readText p = .ok text) ∨ ∃ fault, fs.readText p = .error fault ∧ fs.Illegible p fault := by
  cases hread : fs.mayRead p with
  | false => exact .inr ⟨_, readText_of_not_mayRead h hread, .denied (.inr ⟨h, hread⟩)⟩
  | true =>
    by_cases hfile : ∃ content, fs.find? p = some (.file content)
    · obtain ⟨content, hcontent⟩ := hfile
      rw [readText_of_file hcontent hread]
      cases hdecode : Text.decode content with
      | ok text => exact .inl ⟨_, rfl⟩
      | error f => exact .inr ⟨_, rfl, .encoding ⟨hcontent, hread⟩ hdecode⟩
    · have hnode : ∀ content, fs.find? p ≠ some (.file content) := not_exists.mp hfile
      exact .inr ⟨_, readText_of_no_file h hread hnode, .noFile h hread hnode⟩

/-- In each of the situations it cannot be told what lies at the path, or reading it fails. -/
theorem Illegible.fails {fault : FileFault} (h : fs.Illegible p fault) :
    fs.holds p = .error fault ∨ fs.holds p = .ok true ∧ fs.readText p = .error fault := by
  cases h with
  | tooLong path => exact .inl (holds_eq_error_iff.mpr ⟨_, path, rfl, rfl⟩)
  | denied denied =>
    rcases denied with path | ⟨there, read⟩
    · exact .inl (holds_eq_error_iff.mpr ⟨_, path, rfl, rfl⟩)
    · exact .inr ⟨there, readText_of_not_mayRead there read⟩
  | noFile there read node => exact .inr ⟨there, readText_of_no_file there read node⟩
  | encoding file bytes =>
    refine .inr ⟨file.holds, ?_⟩
    rw [file.readText, bytes]
    rfl

/-- What parsing the text of a file can come to, if it is no run. -/
theorem parse_cases {text : List Char} (hread : fs.readText p = .ok text) {fault : LoadFault}
    (h : Run.parse depth p text = .error fault) :
    fs.Escapes depth p fault ∨ fault.kind = .badValue ∧ Names p fault.message := by
  cases hj : Json.parse depth text with
  | ok j =>
    rw [Run.parse_of_json hj] at h
    cases hdecode : Run.decode j with
    | ok run =>
      rw [hdecode] at h
      cases h
    | error runFault =>
      rw [hdecode] at h
      cases h
      -- Of all that can be wrong with a run, a value out of range alone is not said of the file.
      by_cases hhuge : ∃ test, runFault = .badGroup test .hugeInteger
      · obtain ⟨test, rfl⟩ := hhuge
        exact .inl (.overflow hread hj ((Run.decode_eq_hugeInteger j test).mp hdecode))
      · have hne : ∀ test, runFault ≠ .badGroup test .hugeInteger := not_exists.mp hhuge
        exact .inr ⟨LoadFault.kind_notRun p hne, RunFault.names p hne⟩
  | error fault =>
    unfold Run.parse at h
    rw [hj] at h
    cases fault with
    | longInteger digits =>
      cases h
      exact .inl (.longInteger hread hj)
    | tooDeep container =>
      cases h
      exact .inl (.tooDeep hread hj)
    | malformed cause index =>
      cases h
      exact .inr ⟨rfl, LoadFault.names_notJson p cause _ _ index⟩

/-- What a run that cannot be read can come to. -/
theorem readRun_cases {fault : LoadFault} (h : readRun depth fs p = .error fault) :
    fs.holds p = .ok false ∧ fault = .noRun p ∨ fs.Escapes depth p fault ∨
      fault.kind = .badValue ∧ Names p fault.message := by
  -- Whether something lies at the path is asked first, and not every path has an answer.
  cases hholds : fs.holds p with
  | error fileFault =>
    unfold readRun at h
    rw [hholds] at h
    cases h
    exact .inr (.inl (.illegible (illegible_of_holds hholds)))
  | ok there =>
    cases there with
    | false =>
      unfold readRun at h
      rw [hholds] at h
      cases h
      exact .inl ⟨rfl, rfl⟩
    | true =>
      rcases readText_cases hholds with ⟨text, htext⟩ | ⟨fileFault, hfault, hillegible⟩
      · rw [readRun_of_readText htext] at h
        exact .inr (parse_cases htext h)
      · rw [readRun_of_unreadable hholds hfault] at h
        cases h
        exact .inr (.inl (.illegible hillegible))

theorem readRun_eq_noRun (h : fs.holds p = .ok false) : readRun depth fs p = .error (.noRun p) := by
  unfold readRun
  rw [h]

theorem readRun_of_holds_error {fault : FileFault} (h : fs.holds p = .error fault) :
    readRun depth fs p = .error (.unreadable fault) := by
  unfold readRun
  rw [h]

/-- In each of the situations loading does fail. -/
theorem readRun_of_escapes {fault : LoadFault} (h : fs.Escapes depth p fault) :
    readRun depth fs p = .error fault := by
  cases h with
  | illegible file =>
    rcases file.fails with hholds | ⟨hholds, hread⟩
    · exact readRun_of_holds_error hholds
    · exact readRun_of_unreadable hholds hread
  | longInteger read integer =>
    rw [readRun_of_readText read]
    unfold Run.parse
    rw [integer]
  | tooDeep read nested =>
    rw [readRun_of_readText read]
    unfold Run.parse
    rw [nested]
  | overflow read parsed integer =>
    rw [readRun_of_readText read, Run.parse_of_json parsed, (Run.decode_eq_hugeInteger _ _).mpr integer]
    rfl

theorem readRun_eq_ok_iff {run : Run} : readRun depth fs p = .ok run ↔
    ∃ text j, fs.readText p = .ok text ∧ Json.parse depth text = .ok j ∧ Run.decode j = .ok run := by
  constructor
  · intro h
    cases hholds : fs.holds p with
    | error fault => simp only [readRun, hholds, reduceCtorEq] at h
    | ok there =>
      cases there with
      | false => simp only [readRun, hholds, reduceCtorEq] at h
      | true =>
        rcases readText_cases hholds with ⟨text, htext⟩ | ⟨fault, hfault, -⟩
        · rw [readRun_of_readText htext] at h
          obtain ⟨j, hj, hdecode⟩ := Run.parse_eq_ok_iff.mp h
          exact ⟨text, j, htext, hj, hdecode⟩
        · rw [readRun_of_unreadable hholds hfault] at h
          cases h
  · rintro ⟨text, j, htext, hj, hdecode⟩
    rw [readRun_of_readText htext, Run.parse_eq_ok_iff]
    exact ⟨j, hj, hdecode⟩

theorem exists_readRun_iff : (∃ run, readRun depth fs p = .ok run) ↔ fs.HoldsRun depth p := by
  unfold HoldsRun
  simp only [readRun_eq_ok_iff, ← Run.exists_decode_iff]
  constructor
  · rintro ⟨run, text, j, htext, hj, hdecode⟩
    exact ⟨text, j, htext, hj, run, hdecode⟩
  · rintro ⟨text, j, htext, hj, run, hdecode⟩
    exact ⟨run, text, j, htext, hj, hdecode⟩

/-- A bad value that the message does not name has the same fault in every file that holds the same. -/
theorem Escapes.elsewhere {fault : LoadFault} (h : fs.Escapes depth p fault)
    (hkind : fault.kind = .badValue) (hsame : fs'.find? q = fs.find? p) (hread : fs'.mayRead q = true) :
    fs'.Escapes depth q fault := by
  have hbytes : ∀ {content}, fs.HoldsBytes p content → fs'.HoldsBytes q content :=
    fun file => ⟨hsame.trans file.1, hread⟩
  cases h with
  | illegible file =>
    cases file with
    | encoding file bytes => exact .illegible (.encoding (hbytes file) bytes)
    | _ => cases hkind
  | longInteger read integer =>
    obtain ⟨content, file⟩ := exists_file_of_readText read
    have htext := file.readText
    rw [← (hbytes file).readText, read] at htext
    exact .longInteger htext.symm integer
  | _ => cases hkind

end FileSystem

end BenchCompare
