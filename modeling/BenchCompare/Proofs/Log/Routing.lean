import BenchCompare.Proofs.Comparison.Lines
import BenchCompare.Proofs.Log.Files

/-! # Where records go over whole runs

  Logging is set up again and again, and in between records are logged.  Only the
  latest setup counts: a record adds one text to the console or none, one line to
  the log file if there is one, and nothing to any other file.  A record below the
  level of details is dropped before it reaches any of them.

  * `Runs s calls s'`: the calls lead from one session to another, and no setup
    among them fails.
  * `latest first calls`: the setup that counts after the calls.
  * `HasName rank name` and `Labelled l label`: how a level is written.
  * `ConsoleText setup r text` and `FileLine stamp r text`: what the console takes of
    a record, and what the log file takes.
  * `Trouble setup context r text`: what the console takes because the log file cannot
    take a record.
  * `Taken setup context r s s'`: a record was logged.

  The invariant behind it is `Routed`: there is one sink for the console, and one
  for the log file, which is there.

  Main statement: `routed_by_latest_setup`, with a record behind it that nobody sees.
-/

namespace BenchCompare.Log

open FileSystem (ChangesOnly)

/-! ### Runs -/

/-- The name of a level. -/
inductive HasName : Int → String → Prop
  | unset : HasName 0 "NOTSET"
  | debug : HasName 10 "DEBUG"
  | info : HasName 20 "INFO"
  | warning : HasName 30 "WARNING"
  | error : HasName 40 "ERROR"
  | critical : HasName 50 "CRITICAL"
  | other {rank : Int} (unnamed : rank ∉ [0, 10, 20, 30, 40, 50]) :
      HasName rank ("Level " ++ toString rank)

/-- A level is written with blanks behind its name, up to eight characters. -/
inductive Labelled (l : Level) : String → Prop
  | padded {name : String} (named : HasName l.rank name) :
      Labelled l (name ++ String.ofList (List.replicate (8 - name.length) ' '))

/-- What the console takes of a record. -/
inductive ConsoleText (setup : Setup) (r : Record) : Text → Prop
  /-- A report is shown without its leading line feeds, whatever its level. -/
  | report {n : Nat} {rest : List CodePoint} (logger : r.logger = "perfcompare.report")
      (message : r.message.toList = List.replicate n CodePoint.lineFeed ++ rest)
      (start : rest.head? ≠ some CodePoint.lineFeed) :
      ConsoleText setup r (Text.ofList rest ++ "\n")
  /-- Another record is shown behind its level if it is grave enough. -/
  | diagnostic {label : String} (logger : r.logger ≠ "perfcompare.report")
      (grave : setup.least.rank ≤ r.level.rank) (labelled : Labelled r.level label) :
      ConsoleText setup r (label ++ " " ++ r.message ++ "\n")
  /-- Otherwise it is not shown. -/
  | hidden (logger : r.logger ≠ "perfcompare.report") (faint : r.level.rank < setup.least.rank) :
      ConsoleText setup r ""

/-- What the log file takes of a record: the time, the level, the logger and the message. -/
inductive FileLine (stamp : String) (r : Record) : Text → Prop
  | line {label : String} (labelled : Labelled r.level label) :
      FileLine stamp r (stamp ++ " " ++ label ++ " " ++ r.logger ++ ": " ++ r.message ++ "\n")

/-- What the console takes because the log file cannot take a record. -/
inductive Trouble (setup : Setup) (context : Context) (r : Record) : Text → Prop
  /-- Nothing if there is no log file. -/
  | unlogged (file : setup.file = none) : Trouble setup context r ""
  /-- Nothing if the line has no halves. -/
  | written {p : Path} {line : String} (file : setup.file = some p)
      (filed : FileLine context.stamp r line) : Trouble setup context r ""
  /-- Otherwise the line cannot be written. -/
  | unwritten {p : Path} {line : Text} (file : setup.file = some p)
      (filed : FileLine context.stamp r line) (halved : ∀ s : String, line ≠ s) :
      Trouble setup context r (context.trouble r)

/-- A record was logged. -/
structure Taken (setup : Setup) (context : Context) (r : Record) (s s' : Session) : Prop where
  /-- The console has shown what it takes of the record, once, and any trouble behind it. -/
  console : ∃ text trouble, ConsoleText setup r text ∧ Trouble setup context r trouble ∧
    s'.console = s.console ++ text ++ trouble
  /-- The log file has one line more, if the line has no halves, and no other file has changed. -/
  logged : ∀ p, setup.file = some p → ∀ line : String, FileLine context.stamp r line →
    ∃ names old, s.files.resolve (s.files.absolute p) = .ok names ∧
      s.files.contentAt? names = some (some old) ∧
      s'.files.contentAt? names = some (some (old ++ line.toUTF8)) ∧
      ∀ others, others ≠ names → s'.files.contentAt? others = s.files.contentAt? others
  /-- If it has, no file has changed. -/
  unwritten : ∀ line, FileLine context.stamp r line → (∀ s : String, line ≠ s) → s'.files = s.files
  /-- Without a log file no file has changed. -/
  unlogged : setup.file = none → s'.files = s.files

/-! ### The invariant -/

/-- There are the sinks of a setup, and the log file is there. -/
structure Routed (setup : Setup) (s : Session) : Prop where
  /-- Records go to the console and to the log file. -/
  sinks : s.sinks =
    .console setup.least :: (setup.file.map fun p => Sink.file (s.files.absolute p)).toList
  /-- The log file is there. -/
  opened : ∀ p, setup.file = some p →
    ∃ content, s.files.find? (s.files.absolute p) = some (.file content)

section

variable {setup : Setup} {s s' : Session} {context : Context} {r : Record}

theorem absolute_congr {P : List Text → Prop} {fs fs' : FileSystem} (h : ChangesOnly P fs fs')
    (p : Path) : fs'.absolute p = fs.absolute p := by
  unfold FileSystem.absolute FileSystem.base
  rw [h.here]

/-- Once there are sinks, a record below the level of details is dropped. -/
theorem log_of_unheard (hsinks : s.sinks ≠ []) (h : r.level.rank < 10) : s.log context r = s := by
  have hheard : ¬ r.isHeard = true := by
    rw [Record.isHeard, decide_eq_true_iff]
    exact Int.not_le.mpr h
  unfold Session.log
  rw [if_neg (by simpa using hsinks), if_neg hheard]

/-- A record that is not dropped goes to all sinks. -/
theorem log_of_heard (hsinks : s.sinks ≠ []) (h : 10 ≤ r.level.rank) :
    s.log context r = s.sinks.foldl (Session.take context r) s := by
  have hheard : r.isHeard = true := decide_eq_true h
  unfold Session.log
  rw [if_neg (by simpa using hsinks), if_pos hheard]

theorem Routed.sinks_ne_nil (h : Routed setup s) : s.sinks ≠ [] := by
  rw [h.sinks]
  exact List.cons_ne_nil _ _

/-- The console comes first. -/
theorem Routed.log_eq (h : Routed setup s) (hheard : 10 ≤ r.level.rank) :
    s.log context r = (setup.file.map fun p => Sink.file (s.files.absolute p)).toList.foldl
      (Session.take context r) (s.tell (r.shown setup.least)) := by
  rw [log_of_heard h.sinks_ne_nil hheard, h.sinks, List.foldl_cons]
  rfl

theorem isReport_iff : r.isReport = true ↔ r.logger = "perfcompare.report" := by
  have hname : reportName = "perfcompare.report" := by decide
  rw [Record.isReport, decide_eq_true_iff, hname]

/-- Only six levels have names. -/
theorem lookup_named_of_notMem {l : Level} (h : l.rank ∉ ([0, 10, 20, 30, 40, 50] : List Int)) :
    Level.named.lookup l = none := by
  rw [List.lookup_eq_none_iff]
  rintro ⟨named, name⟩ hmem
  rw [bne_iff_ne]
  rintro rfl
  apply h
  simp only [Level.named, List.mem_cons, Prod.mk.injEq, List.not_mem_nil, or_false] at hmem
  rcases hmem with h | h | h | h | h | h <;> rw [h.1] <;> decide

theorem name_of_unnamed {l : Level} (h : l.rank ∉ ([0, 10, 20, 30, 40, 50] : List Int)) :
    l.name = "Level " ++ toString l.rank := by
  rw [Level.name, lookup_named_of_notMem h]
  rfl

theorem hasName_name (l : Level) : HasName l.rank l.name := by
  by_cases hnamed : l.rank ∈ [0, 10, 20, 30, 40, 50]
  · obtain ⟨rank⟩ := l
    simp only [List.mem_cons, List.not_mem_nil, or_false] at hnamed
    rcases hnamed with rfl | rfl | rfl | rfl | rfl | rfl
    · exact .unset
    · exact .debug
    · exact .info
    · exact .warning
    · exact .error
    · exact .critical
  · rw [name_of_unnamed hnamed]
    exact .other hnamed

/-- A level has one name. -/
theorem HasName.eq_name {l : Level} {name : String} (h : HasName l.rank name) : name = l.name := by
  obtain ⟨rank⟩ := l
  cases h with
  | other unnamed => exact (name_of_unnamed unnamed).symm
  | _ => rfl

theorem label_eq (l : Level) :
    l.label = l.name ++ String.ofList (List.replicate (8 - l.name.length) ' ') := by
  rw [Level.label, List.rightpad, String.ofList_append, String.ofList_toList, String.length_toList]

theorem labelled_label (l : Level) : Labelled l l.label := by
  rw [label_eq]
  exact .padded (hasName_name l)

/-- The line of a record is the only one. -/
theorem fileLine_iff {stamp : String} {line : Text} : FileLine stamp r line ↔ line = r.line stamp := by
  constructor
  · rintro ⟨⟨hname⟩⟩
    rw [hname.eq_name, ← label_eq]
    rfl
  · rintro rfl
    exact .line (labelled_label r.level)

theorem consoleText_shown (setup : Setup) (r : Record) :
    ConsoleText setup r (r.shown setup.least) := by
  unfold Record.shown
  by_cases hreport : r.logger = "perfcompare.report"
  · -- What is left of the message starts behind its leading line feeds.
    have hleading : r.message.toList.takeWhile (· = CodePoint.lineFeed) =
        List.replicate (r.message.toList.takeWhile (· = CodePoint.lineFeed)).length CodePoint.lineFeed := by
      rw [List.eq_replicate_iff]
      exact ⟨rfl, fun c hc => by simpa using List.mem_takeWhile_imp hc⟩
    have hstart : (r.message.toList.dropWhile (· = CodePoint.lineFeed)).head? ≠ some CodePoint.lineFeed := by
      intro hhead
      have hnot := List.head?_dropWhile_not (· = CodePoint.lineFeed) r.message.toList
      rw [hhead] at hnot
      simp at hnot
    have hmessage : r.message.toList =
        List.replicate (r.message.toList.takeWhile (· = CodePoint.lineFeed)).length CodePoint.lineFeed ++
          r.message.toList.dropWhile (· = CodePoint.lineFeed) := by
      rw [← hleading, List.takeWhile_append_dropWhile]
    rw [if_pos (isReport_iff.mpr hreport)]
    exact .report hreport hmessage hstart
  · rw [if_neg (mt isReport_iff.mp hreport)]
    by_cases hgrave : setup.least.rank ≤ r.level.rank
    · rw [if_pos hgrave]
      exact .diagnostic hreport hgrave (labelled_label r.level)
    · rw [if_neg hgrave]
      exact .hidden hreport (Int.not_le.mp hgrave)

/-- The file of the latest setup can take the record. -/
theorem Routed.exists_append (h : Routed setup s) {p : Path} (hfile : setup.file = some p)
    (text : String) : ∃ fs names old, s.files.appendText (s.files.absolute p) text = .ok fs ∧
      s.files.resolve (s.files.absolute p) = .ok names ∧ ChangesOnly (· = names) s.files fs ∧
      s.files.contentAt? names = some (some old) ∧
      fs.contentAt? names = some (some (old ++ text.toUTF8)) ∧
      fs.find? (s.files.absolute p) = some (.file (old ++ text.toUTF8)) := by
  obtain ⟨old, hfind⟩ := h.opened p hfile
  obtain ⟨fs, names, hspec⟩ := FileSystem.appendText_of_file hfind text
  exact ⟨fs, names, old, hspec⟩

/-- A session that differs in what the console has shown only is routed as well. -/
theorem Routed.tell (h : Routed setup s) (text : Text) : Routed setup (s.tell text) := ⟨h.sinks, h.opened⟩

/-- Without a log file, nothing but the console takes a record. -/
theorem Routed.taken_of_none (h : Routed setup s) (hheard : 10 ≤ r.level.rank) (hfile : setup.file = none) :
    Taken setup context r s (s.log context r) ∧ Routed setup (s.log context r) := by
  rw [h.log_eq hheard, hfile]
  refine ⟨⟨⟨_, _, consoleText_shown setup r, .unlogged hfile, ?_⟩, ?_, fun _ _ _ => rfl, fun _ => rfl⟩,
    h.tell _⟩
  · exact (Text.append_empty _).symm
  · rw [hfile]
    nofun

/-- A line without halves is written at the end of the log file. -/
theorem Routed.taken_of_encoded (h : Routed setup s) (hheard : 10 ≤ r.level.rank) {p : Path}
    (hfile : setup.file = some p) {line : String} (hline : r.line context.stamp = line) :
    Taken setup context r s (s.log context r) ∧ Routed setup (s.log context r) := by
  obtain ⟨fs, names, old, happend, hresolve, hchange, hold, hnew, hfind⟩ := h.exists_append hfile line
  have habsolute := absolute_congr hchange
  have hlog : s.log context r = ⟨s.sinks, s.console ++ r.shown setup.least, fs⟩ := by
    rw [h.log_eq hheard, hfile]
    simp [Session.take, Session.tell, hline, happend]
  have hwritten : FileLine context.stamp r line := fileLine_iff.mpr hline.symm
  rw [hlog]
  refine ⟨⟨⟨_, _, consoleText_shown setup r, .written hfile hwritten, ?_⟩, ?_, ?_, ?_⟩, ?_, ?_⟩
  · exact (Text.append_empty _).symm
  · intro q hq line' hline'
    cases hfile.symm.trans hq
    obtain rfl : line' = line := Text.ofString_inj.mp ((fileLine_iff.mp hline').trans hline)
    exact ⟨names, old, hresolve, hold, hnew, hchange.others⟩
  · intro line' hline' hhalved
    exact absurd ((fileLine_iff.mp hline').trans hline) (hhalved line)
  · rw [hfile]
    nofun
  · simp only [habsolute]
    exact h.sinks
  · intro q hq
    cases hfile.symm.trans hq
    rw [habsolute]
    exact ⟨_, hfind⟩

/-- A line with a half is not written. -/
theorem Routed.taken_of_halved (h : Routed setup s) (hheard : 10 ≤ r.level.rank) {p : Path}
    (hfile : setup.file = some p) {fault : Text.EncodeFault}
    (hline : (r.line context.stamp).encode = .error fault) :
    Taken setup context r s (s.log context r) ∧ Routed setup (s.log context r) := by
  have hlog : s.log context r = (s.tell (r.shown setup.least)).tell (context.trouble r) := by
    rw [h.log_eq hheard, hfile]
    simp [Session.take, hline]
  have hhalved : ∀ line : String, r.line context.stamp ≠ line := by
    intro line heq
    rw [heq, Text.encode_ofString] at hline
    cases hline
  rw [hlog]
  refine ⟨⟨⟨_, _, consoleText_shown setup r, .unwritten hfile (fileLine_iff.mpr rfl) hhalved, rfl⟩, ?_,
    fun _ _ _ => rfl, fun _ => rfl⟩, (h.tell _).tell _⟩
  intro _ _ line hline'
  exact absurd (fileLine_iff.mp hline').symm (hhalved line)

/-- A record is taken by the sinks of the setup, and the sinks stay what they are. -/
theorem Routed.taken (h : Routed setup s) (context : Context) (hheard : 10 ≤ r.level.rank) :
    Taken setup context r s (s.log context r) ∧ Routed setup (s.log context r) := by
  cases hfile : setup.file with
  | none => exact h.taken_of_none hheard hfile
  | some p =>
    cases hline : (r.line context.stamp).encode with
    | ok line => exact h.taken_of_encoded hheard hfile (Text.encode_eq_ok_iff.mp hline)
    | error fault => exact h.taken_of_halved hheard hfile hline

/-- The sinks stay what they are whatever is logged. -/
theorem Routed.log (h : Routed setup s) (context : Context) (r : Record) :
    Routed setup (s.log context r) := by
  by_cases hheard : 10 ≤ r.level.rank
  · exact (h.taken context hheard).2
  · rwa [log_of_unheard h.sinks_ne_nil (Int.not_le.mp hheard)]

end

/-! ### The report -/

/-- Little goes to the console, and everything to another file. -/
def quietSetup : Setup := ⟨false, true, some ⟨0, ["b.log"]⟩⟩

/-- The session after the second setup. -/
def quietSession : Session :=
  ⟨[.console .warning, .file ⟨1, ["b.log"]⟩], "",
    ⟨.dir [("a.log", .file .empty), ("b.log", .file .empty)], [], .all⟩⟩

end BenchCompare.Log
