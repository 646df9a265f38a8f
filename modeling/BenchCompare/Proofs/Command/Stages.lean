import BenchCompare.Proofs.Command.Work
import BenchCompare.Proofs.Comparison.Statistics
import BenchCompare.Proofs.Job.Contract
import BenchCompare.Proofs.Settings.Faults

/-! # The stages of a comparison

  A comparison sets logging up, settles the settings, tabulates both jobs and
  delivers the output.  Each stage starts in the session in which the one before
  it has ended.

  * `Settled`: the first two stages have ended, with settings.
  * `Unsettled`: the settings cannot be settled.
  * `Loaded`: both jobs were loaded.
  * `Tabulated`: the first three stages have ended, with a table.
  * `Delivered`: the output was delivered.
  * `Undelivered`: the output could not be written.

  Main statements: `yields_compare` for a comparison that was made, `stops_compare`
  for one that was not, and `logging_tabulated` for what has happened to the files
  before the output is delivered.
-/

namespace BenchCompare.Command

open Log (Session Logging SameButLog)

/-! ### Settling the settings -/

/-- The mapping of the configuration file of a request; without a file it is empty. -/
def Request.mapping (yaml : YamlLoader) (r : Request) (fs : FileSystem) : Except ConfigFault Entries :=
  match r.config with
  | some path => loadConfig yaml fs (Path.ofText path)
  | none => .ok []

/-- The settings that a request comes to. -/
def Request.settings (room : Nat) (r : Request) (entries : Entries) : Except SettingsFault Settings :=
  Settings.ofValues room (effective entries r.overrides)

/-- The settings of a request cannot be settled. -/
inductive Unsettled (env : Platform) (r : Request) (s : Session) : Stop → Session → Prop
  | config {fault : ConfigFault} (mapping : r.mapping env.yaml s.files = .error fault) :
      Unsettled env r s (.failed (.config fault)) s
  | settings {entries : Entries} {fault : SettingsFault} (mapping : r.mapping env.yaml s.files = .ok entries)
      (settings : r.settings env.room entries = .error fault) :
      Unsettled env r s (.failed (.settings fault)) (s.logAll env.toContext entries.warnings)
  | wordless {entries : Entries} {c : Settings} (mapping : r.mapping env.yaml s.files = .ok entries)
      (settings : r.settings env.room entries = .ok c) (wordless : c.canBeWorded = false) :
      Unsettled env r s (.failed .wordless) (s.logAll env.toContext entries.warnings)
  | problems {entries : Entries} {c : Settings} (mapping : r.mapping env.yaml s.files = .ok entries)
      (settings : r.settings env.room entries = .ok c) (worded : c.canBeWorded = true)
      (errors : c.errors ≠ []) :
      Unsettled env r s (.refused (problemsText c.errors))
        ((s.logAll env.toContext entries.warnings).logAll env.toContext (c.warnings.map problemRecord))

section

variable {env : Platform} {r : Request} {s s' : Session} {e : Stop} {c : Settings}

theorem configured_eq (env : Platform) (r : Request) :
    configured env r.config = get >>= fun s => orFail .config (r.mapping env.yaml s.files) := by
  unfold configured Request.mapping
  cases r.config <;> rfl

theorem yields_settle : Yields (settle env r) s c s' ↔
    ∃ entries, r.mapping env.yaml s.files = .ok entries ∧ r.settings env.room entries = .ok c ∧
      c.canBeWorded = true ∧ c.errors = [] ∧
      s' = (s.logAll env.toContext entries.warnings).logAll env.toContext (c.warnings.map problemRecord) := by
  unfold settle
  rw [configured_eq]
  simp only [bind_assoc, yields_get_bind, yields_bind (w := orFail _ _), yields_record_bind,
    yields_stopIf, yields_orFail, yields_pure]
  constructor
  · rintro ⟨entries, _, ⟨hmapping, rfl⟩, c', _, ⟨hsettings, rfl⟩, hworded, herrors, rfl, rfl⟩
    refine ⟨entries, hmapping, hsettings, ?_, ?_, rfl⟩
    · simpa using hworded
    · simpa using herrors
  · rintro ⟨entries, hmapping, hsettings, hworded, herrors, rfl⟩
    refine ⟨entries, _, ⟨hmapping, rfl⟩, c, _, ⟨hsettings, rfl⟩, ?_, ?_, rfl, rfl⟩
    · simpa using hworded
    · simpa using herrors

theorem stops_settle : Stops (settle env r) s e s' ↔ Unsettled env r s e s' := by
  unfold settle
  rw [configured_eq]
  simp only [bind_assoc, stops_get_bind, stops_bind (w := orFail _ _), stops_record_bind,
    stops_stopIf, stops_orFail, yields_orFail, stops_pure]
  constructor
  · rintro (⟨fault, hmapping, rfl, rfl⟩ | ⟨entries, _, ⟨hmapping, rfl⟩, hrest⟩)
    · exact .config hmapping
    · rcases hrest with ⟨fault, hsettings, rfl, rfl⟩ | ⟨c, _, ⟨hsettings, rfl⟩, hrest⟩
      · exact .settings hmapping hsettings
      · rcases hrest with ⟨hwordless, rfl, rfl⟩ | ⟨hworded, ⟨herrors, rfl, rfl⟩ | ⟨-, hpure⟩⟩
        · exact .wordless hmapping hsettings (by simpa using hwordless)
        · exact .problems hmapping hsettings (by simpa using hworded) (by simpa using herrors)
        · exact hpure.elim
  · intro h
    cases h with
    | config mapping => exact .inl ⟨_, mapping, rfl, rfl⟩
    | settings mapping settings =>
      exact .inr ⟨_, _, ⟨mapping, rfl⟩, .inl ⟨_, settings, rfl, rfl⟩⟩
    | wordless mapping settings wordless =>
      refine .inr ⟨_, _, ⟨mapping, rfl⟩, .inr ⟨_, _, ⟨settings, rfl⟩, .inl ⟨?_, rfl, rfl⟩⟩⟩
      simpa using wordless
    | problems mapping settings worded errors =>
      refine .inr ⟨_, _, ⟨mapping, rfl⟩, .inr ⟨_, _, ⟨settings, rfl⟩, .inr ⟨?_, .inl ⟨?_, rfl, rfl⟩⟩⟩⟩
      · simpa using worded
      · simpa using errors

end

/-! ### Loading the jobs -/

/-- The runs of a job, each read from files with a property. -/
def ReadFrom (depth : Nat) (P : FileSystem → Prop) (p : Path) (job : Job) : Prop :=
  ∃ fs files, P fs ∧ (jobFiles fs p).result = .ok files ∧
    List.Forall₂ (fun q run => ∃ fs, P fs ∧ readRun depth fs q = .ok run) files job

/-- If the property singles out some files, a job that was read is the one that is loaded from them. -/
theorem ReadFrom.loadJob {depth : Nat} {P : FileSystem → Prop} {fs : FileSystem} (hP : ∀ fs', P fs' → fs' = fs)
    {p : Path} {job : Job} (h : ReadFrom depth P p job) : (loadJob depth fs p).result = .ok job := by
  obtain ⟨fs', files, hfs', hfiles, hruns⟩ := h
  obtain rfl := hP fs' hfs'
  have hread : List.Forall₂ (fun q run => readRun depth fs' q = .ok run) files job := by
    refine hruns.imp ?_
    rintro q run ⟨fs'', hfs'', hrun⟩
    rw [hP fs'' hfs''] at hrun
    exact hrun
  rw [FileSystem.loadJob_result, hfiles]
  exact (mapM_eq_ok (fun _ _ => Iff.rfl) _ _).mpr hread

/-- Both jobs of the settings were loaded. -/
def Loaded (env : Platform) (c : Settings) (s : Session) (left right : Job) (s' : Session) : Prop :=
  ∃ s₁, Yields (loadSide env c.leftJob) s left s₁ ∧ Yields (loadSide env c.rightJob) s₁ right s'

section

variable {env : Platform} {s s' : Session} {e : Stop} {P : Session → Prop}

theorem yields_loaded {α : Type} {l : Loading α} {a : α} :
    Yields (loaded env l) s a s' ↔ l.result = .ok a ∧ s' = s.logAll env.toContext l.log := by
  unfold loaded
  rw [yields_record_bind, yields_orFail]

theorem stops_loaded {α : Type} {l : Loading α} : Stops (loaded env l) s e s' ↔
    ∃ fault, l.result = .error fault ∧ e = .failed (.load fault) ∧ s' = s.logAll env.toContext l.log := by
  unfold loaded
  rw [stops_record_bind, stops_orFail]

theorem keeps_loaded (hlog : ∀ s rs, P s → P (s.logAll env.toContext rs)) {α : Type} (l : Loading α) :
    Keeps P (loaded env l) :=
  (Keeps.record hlog l.log).bind fun _ => .orFail _ _

theorem keeps_loadFiles (hlog : ∀ s rs, P s → P (s.logAll env.toContext rs)) (files : List Path) :
    Keeps P (loadFiles env files) := by
  induction files with
  | nil => exact .pure _
  | cons p files ih =>
    unfold loadFiles
    exact Keeps.get.bind fun s => (keeps_loaded hlog _).bind fun run => ih.bind fun job => .pure _

theorem keeps_loadSide (hlog : ∀ s rs, P s → P (s.logAll env.toContext rs)) (p : Option Path) :
    Keeps P (loadSide env p) := by
  unfold loadSide
  cases p with
  | none => exact .pure _
  | some p =>
    exact Keeps.get.bind fun s => (keeps_loaded hlog _).bind fun files =>
      (keeps_loadFiles hlog files).bind fun job => (Keeps.record hlog _).bind fun _ => .pure _

/-- The runs that were loaded were read, one from each file. -/
theorem forall₂_loadFiles (hlog : ∀ s rs, P s → P (s.logAll env.toContext rs)) {files : List Path} {job : Job}
    (hs : P s) (h : Yields (loadFiles env files) s job s') :
    List.Forall₂ (fun q run => ∃ s, P s ∧ readRun env.depth s.files q = .ok run) files job := by
  induction files generalizing s job s' with
  | nil =>
    obtain ⟨rfl, -⟩ := yields_pure.mp h
    exact .nil
  | cons p files ih =>
    unfold loadFiles at h
    rw [yields_get_bind, yields_bind] at h
    -- The run is read in the session at the start, the other ones in later sessions.
    obtain ⟨run, s₁, hrun, h⟩ := h
    rw [yields_bind] at h
    obtain ⟨runs, s₂, hruns, h⟩ := h
    obtain ⟨rfl, -⟩ := yields_pure.mp h
    have hs₁ : P s₁ := (keeps_loaded hlog _).yields hs hrun
    obtain ⟨hread, -⟩ := yields_loaded.mp hrun
    rw [FileSystem.loadRun_result] at hread
    exact .cons ⟨s, hs, hread⟩ (ih hs₁ hruns)

/-- A job that was loaded was read. -/
theorem readFrom_loadSide {Q : FileSystem → Prop} (hlog : ∀ s rs, P s → P (s.logAll env.toContext rs))
    (hQ : ∀ s, P s → Q s.files) {p : Path} {job : Job} (hs : P s)
    (h : Yields (loadSide env (some p)) s job s') : ReadFrom env.depth Q p job := by
  unfold loadSide at h
  dsimp only at h
  rw [yields_get_bind, yields_bind] at h
  obtain ⟨files, s₁, hfiles, h⟩ := h
  rw [yields_bind] at h
  obtain ⟨job', s₂, hjob, h⟩ := h
  rw [yields_record_bind] at h
  obtain ⟨rfl, -⟩ := yields_pure.mp h
  have hs₁ : P s₁ := (keeps_loaded hlog _).yields hs hfiles
  obtain ⟨hresult, -⟩ := yields_loaded.mp hfiles
  refine ⟨s.files, files, hQ s hs, hresult, (forall₂_loadFiles hlog hs₁ hjob).imp ?_⟩
  rintro q run ⟨s₃, hs₃, hrun⟩
  exact ⟨s₃.files, hQ s₃ hs₃, hrun⟩

theorem stops_loadFiles {files : List Path} (h : Stops (loadFiles env files) s e s') :
    ∃ fault, e = .failed (.load fault) := by
  induction files generalizing s with
  | nil => exact absurd h stops_pure
  | cons p files ih =>
    unfold loadFiles at h
    rw [stops_get_bind, stops_bind] at h
    rcases h with h | ⟨run, s₁, -, h⟩
    · obtain ⟨fault, -, rfl, -⟩ := stops_loaded.mp h
      exact ⟨fault, rfl⟩
    · rw [stops_bind] at h
      rcases h with h | ⟨runs, s₂, -, h⟩
      · exact ih h
      · exact absurd h stops_pure

/-- Loading is the only thing that can stop with a job. -/
theorem stops_loadSide {p : Option Path} (h : Stops (loadSide env p) s e s') :
    ∃ fault, e = .failed (.load fault) := by
  unfold loadSide at h
  cases p with
  | none => exact absurd h stops_pure
  | some p =>
    dsimp only at h
    rw [stops_get_bind, stops_bind] at h
    rcases h with h | ⟨files, s₁, -, h⟩
    · obtain ⟨fault, -, rfl, -⟩ := stops_loaded.mp h
      exact ⟨fault, rfl⟩
    · rw [stops_bind] at h
      rcases h with h | ⟨job, s₂, -, h⟩
      · exact stops_loadFiles h
      · rw [stops_record_bind] at h
        exact absurd h stops_pure

end

/-! ### Tabulating the jobs -/

/-- The table of two jobs, with the summaries of its metrics. -/
def comparisonOf (c : Settings) (left right : Job) : Table :=
  (Table.ofJobs left right c.minCount).table.summarise

section

variable {env : Platform} {s s' : Session} {e : Stop} {c : Settings} {t : Table} {P : Session → Prop}

theorem yields_tabulate : Yields (tabulate env c) s t s' ↔
    ∃ left right s₁, Loaded env c s left right s₁ ∧
      (Table.ofJobs left right c.minCount).stoppedBy = none ∧ t = comparisonOf c left right ∧
      s' = (s₁.logAll env.toContext (Table.ofJobs left right c.minCount).log).logAll env.toContext [comparedRecord t] := by
  unfold tabulate Loaded comparisonOf
  simp only [yields_bind (w := loadSide _ _), yields_record_bind]
  constructor
  · rintro ⟨left, s₁, hleft, right, s₂, hright, h⟩
    refine ⟨left, right, s₂, ⟨s₁, hleft, hright⟩, ?_⟩
    split at h
    · exact absurd (yields_bind.mp h) (by simp [yields_throw])
    · next hnone =>
      obtain ⟨rfl, rfl⟩ := yields_pure.mp h
      exact ⟨Option.eq_none_iff_forall_ne_some.mpr hnone, rfl, rfl⟩
  · rintro ⟨left, right, s₂, ⟨s₁, hleft, hright⟩, hnone, rfl, rfl⟩
    refine ⟨left, s₁, hleft, right, s₂, hright, ?_⟩
    rw [hnone]
    exact yields_pure.mpr ⟨rfl, rfl⟩

theorem stops_tabulate : Stops (tabulate env c) s e s' ↔
    Stops (loadSide env c.leftJob) s e s' ∨
    (∃ left s₁, Yields (loadSide env c.leftJob) s left s₁ ∧
      Stops (loadSide env c.rightJob) s₁ e s') ∨
    ∃ left right s₁ digits, Loaded env c s left right s₁ ∧
      (Table.ofJobs left right c.minCount).stoppedBy = some digits ∧ e = .failed (.count digits) ∧
      s' = s₁.logAll env.toContext (Table.ofJobs left right c.minCount).log := by
  unfold tabulate Loaded
  simp only [stops_bind (w := loadSide _ _), stops_record_bind]
  constructor
  · rintro (hleft | ⟨left, s₁, hleft, hright | ⟨right, s₂, hright, h⟩⟩)
    · exact .inl hleft
    · exact .inr (.inl ⟨left, s₁, hleft, hright⟩)
    · refine .inr (.inr ⟨left, right, s₂, ?_⟩)
      split at h
      · next digits hsome =>
        rw [stops_bind, stops_throw] at h
        rcases h with ⟨rfl, rfl⟩ | ⟨_, _, hthrow, -⟩
        · exact ⟨digits, ⟨s₁, hleft, hright⟩, hsome, rfl, rfl⟩
        · exact absurd hthrow yields_throw
      · exact absurd h stops_pure
  · rintro (hleft | ⟨left, s₁, hleft, hright⟩ |
      ⟨left, right, s₂, digits, ⟨s₁, hleft, hright⟩, hsome, rfl, rfl⟩)
    · exact .inl hleft
    · exact .inr ⟨left, s₁, hleft, .inl hright⟩
    · refine .inr ⟨left, s₁, hleft, .inr ⟨right, s₂, hright, ?_⟩⟩
      rw [hsome]
      exact stops_bind.mpr (.inl (stops_throw.mpr ⟨rfl, rfl⟩))

theorem keeps_tabulate (hlog : ∀ s rs, P s → P (s.logAll env.toContext rs)) : Keeps P (tabulate env c) := by
  unfold tabulate
  refine (keeps_loadSide hlog _).bind fun left => (keeps_loadSide hlog _).bind fun right =>
    (Keeps.record hlog _).bind fun _ => ?_
  split
  · exact (Keeps.throw _).bind fun _ => (Keeps.record hlog _).bind fun _ => .pure _
  · exact (Keeps.record hlog _).bind fun _ => .pure _

end

/-! ### Delivering the output -/

/-- The output of a table was delivered, and this line is printed, if one is. -/
inductive Delivered (env : Platform) (c : Settings) (t : Table) (s : Session) :
    Option Text → Session → Prop
  | reported (format : c.format = "table") :
      Delivered env c t s none (s.logAll env.toContext [t.reportRecord])
  | printed {text : Text} (format : c.format ≠ "table") (render : rendered c.format t = .ok text)
      (output : c.output = none) : Delivered env c t s (some text) s
  | written {text : Text} {p : Path} {fs : FileSystem} (format : c.format ≠ "table")
      (render : rendered c.format t = .ok text) (output : c.output = some p)
      (files : s.files.writeText p text = (fs, none)) :
      Delivered env c t s (some ("Exported to " ++ p.text)) { s with files := fs }

section

variable {env : Platform} {s s' : Session} {e : Stop} {c : Settings} {t : Table} {line : Option Text}

theorem yields_deliver :
    Yields (deliver env c t) s line s' ↔ Delivered env c t s line s' := by
  unfold deliver
  constructor
  · intro h
    split at h
    · next hformat =>
      rw [yields_record_bind, yields_pure] at h
      obtain ⟨rfl, rfl⟩ := h
      exact .reported hformat
    · next hformat =>
      simp only [yields_bind (w := orFail _ _), yields_orFail] at h
      obtain ⟨text, s, ⟨htext, rfl⟩, h⟩ := h
      split at h
      · next houtput =>
        obtain ⟨rfl, rfl⟩ := yields_pure.mp h
        exact .printed hformat htext houtput
      · next p houtput =>
        rw [yields_get_bind] at h
        rcases hfiles : s.files.writeText p text with ⟨fs, fault?⟩
        rw [hfiles] at h
        obtain ⟨_, _, hset, h⟩ := yields_bind.mp h
        obtain rfl := yields_set.mp hset
        cases fault? with
        | some fault => exact absurd (yields_bind.mp h) (by simp [yields_throw])
        | none =>
          obtain ⟨rfl, rfl⟩ := yields_pure.mp h
          exact .written hformat htext houtput hfiles
  · intro h
    cases h with
    | reported format =>
      rw [if_pos format]
      exact yields_pure.mpr ⟨rfl, rfl⟩
    | printed format render output =>
      rw [if_neg format, render, output]
      exact yields_pure.mpr ⟨rfl, rfl⟩
    | written format render output files =>
      rw [if_neg format, render, output]
      refine yields_bind.mpr ⟨_, s, yields_pure.mpr ⟨rfl, rfl⟩, ?_⟩
      dsimp only
      rw [yields_get_bind, files]
      exact yields_pure.mpr ⟨rfl, rfl⟩

/-- The output of a table could not be written. -/
inductive Undelivered (c : Settings) (t : Table) (s : Session) : FileSystem.FileFault → Session → Prop
  | intro {text : Text} {p : Path} {fs : FileSystem} {fault : FileSystem.FileFault}
      (format : c.format ≠ "table") (render : rendered c.format t = .ok text) (output : c.output = some p)
      (files : s.files.writeText p text = (fs, some fault)) :
      Undelivered c t s fault { s with files := fs }

/-- With the places that the command shows, every table has a text. -/
theorem exists_rendered (format : Text) (t : Table) : ∃ text, rendered format t = .ok text := by
  unfold rendered
  split
  · exact t.exists_statistics (by decide) (by decide)
  · exact ⟨_, rfl⟩

theorem stops_deliver : Stops (deliver env c t) s e s' ↔
    ∃ fault, Undelivered c t s fault s' ∧ e = .failed (.output fault) := by
  -- Every table has a text, so only the file can fail.
  obtain ⟨text, htext⟩ := exists_rendered c.format t
  unfold deliver
  rw [htext]
  constructor
  · intro h
    split at h
    · rw [stops_record_bind] at h
      exact absurd h stops_pure
    · next hformat =>
      simp only [stops_bind (w := orFail _ _), stops_orFail, yields_orFail] at h
      rcases h with ⟨fault, hcell, -⟩ | ⟨text', s, ⟨htext', rfl⟩, h⟩
      · cases hcell
      · cases htext'
        split at h
        · exact absurd h stops_pure
        · next p houtput =>
          rw [stops_get_bind] at h
          rcases hfiles : s.files.writeText p text with ⟨fs, fault?⟩
          rw [hfiles] at h
          rcases stops_bind.mp h with hset | ⟨_, _, hset, h⟩
          · exact absurd hset stops_set
          · obtain rfl := yields_set.mp hset
            cases fault? with
            | none => exact absurd h stops_pure
            | some fault =>
              rcases stops_bind.mp h with hthrow | ⟨_, _, hthrow, -⟩
              · obtain ⟨rfl, rfl⟩ := stops_throw.mp hthrow
                exact ⟨fault, .intro hformat htext houtput hfiles, rfl⟩
              · exact absurd hthrow yields_throw
  · rintro ⟨fault, ⟨hformat, hrender, houtput, hfiles⟩, rfl⟩
    cases htext.symm.trans hrender
    rw [if_neg hformat, houtput]
    refine stops_bind.mpr (.inr ⟨text, s, yields_pure.mpr ⟨rfl, rfl⟩, ?_⟩)
    dsimp only
    rw [stops_get_bind, hfiles]
    refine stops_bind.mpr (.inr ⟨(), _, yields_set.mpr rfl, ?_⟩)
    exact stops_bind.mpr (.inl (stops_throw.mpr ⟨rfl, rfl⟩))

end

/-! ### The whole comparison -/

/-- Logging was set up. -/
def Started (fs : FileSystem) (r : Request) (s : Session) : Prop :=
  (Session.start fs).configure r.logging = (s, none)

/-- Settings were settled, and no job was loaded yet. -/
def Settled (env : Platform) (fs : FileSystem) (r : Request) (c : Settings) (s : Session) : Prop :=
  ∃ s₀, Started fs r s₀ ∧ Yields (settle env r) s₀ c s

/-- The jobs were tabulated, and nothing was delivered yet. -/
def Tabulated (env : Platform) (fs : FileSystem) (r : Request) (c : Settings) (t : Table)
    (s : Session) : Prop :=
  ∃ s₁, Settled env fs r c s₁ ∧ Yields (tabulate env c) s₁ t s

section

variable {env : Platform} {fs : FileSystem} {r : Request} {c : Settings} {t : Table} {s s' : Session}
  {e : Stop} {line : Option Text}

theorem yields_compare : Yields (compare env r) (.start fs) line s' ↔
    ∃ c t s, Tabulated env fs r c t s ∧ Delivered env c t s line s' := by
  unfold compare Tabulated Settled Started
  simp only [yields_bind, yields_setUp, yields_deliver]
  constructor
  · rintro ⟨_, s₀, hstart, c, s₁, hsettle, t, s, htabulate, hdeliver⟩
    exact ⟨c, t, s, ⟨s₁, ⟨s₀, hstart, hsettle⟩, htabulate⟩, hdeliver⟩
  · rintro ⟨c, t, s, ⟨s₁, ⟨s₀, hstart, hsettle⟩, htabulate⟩, hdeliver⟩
    exact ⟨(), s₀, hstart, c, s₁, hsettle, t, s, htabulate, hdeliver⟩

/-- A comparison that is not made stops in one of its stages. -/
inductive Stopped (env : Platform) (fs : FileSystem) (r : Request) : Stop → Session → Prop
  | logFile {fault : FileSystem.FileFault} {s : Session}
      (configure : (Session.start fs).configure r.logging = (s, some fault)) :
      Stopped env fs r (.failed (.logFile fault)) s
  | unsettled {e : Stop} {s s' : Session} (started : Started fs r s) (settle : Unsettled env r s e s') :
      Stopped env fs r e s'
  | untabulated {e : Stop} {c : Settings} {s s' : Session} (settled : Settled env fs r c s)
      (tabulate : Stops (tabulate env c) s e s') : Stopped env fs r e s'
  | undelivered {c : Settings} {t : Table} {s s' : Session} {fault : FileSystem.FileFault}
      (tabulated : Tabulated env fs r c t s) (deliver : Undelivered c t s fault s') :
      Stopped env fs r (.failed (.output fault)) s'

theorem stops_compare : Stops (compare env r) (.start fs) e s' ↔ Stopped env fs r e s' := by
  unfold compare
  simp only [stops_bind, yields_setUp, stops_setUp, stops_settle, stops_deliver]
  constructor
  · rintro (⟨fault, hconfigure, rfl⟩ | ⟨_, s₀, hstart, h⟩)
    · exact .logFile hconfigure
    · rcases h with hsettle | ⟨c, s₁, hsettle, htabulate | ⟨t, s, htabulate, fault, hdeliver, rfl⟩⟩
      · exact .unsettled hstart hsettle
      · exact .untabulated ⟨s₀, hstart, hsettle⟩ htabulate
      · exact .undelivered ⟨s₁, ⟨s₀, hstart, hsettle⟩, htabulate⟩ hdeliver
  · intro h
    cases h with
    | logFile configure => exact .inl ⟨_, configure, rfl⟩
    | unsettled started settle => exact .inr ⟨(), _, started, .inl settle⟩
    | untabulated settled tabulate =>
      obtain ⟨s₀, hstart, hsettle⟩ := settled
      exact .inr ⟨(), s₀, hstart, .inr ⟨_, _, hsettle, .inl tabulate⟩⟩
    | undelivered tabulated deliver =>
      obtain ⟨s₁, ⟨s₀, hstart, hsettle⟩, htabulate⟩ := tabulated
      exact .inr ⟨(), s₀, hstart, .inr ⟨_, _, hsettle, .inr ⟨_, _, htabulate, _, deliver, rfl⟩⟩⟩

end

/-! ### What a comparison is made of -/

/-- What a comparison is made of: the settings of the request, and a job for each side.  All of it was
read from the files as they were at the start, the log file apart. -/
structure Basis (yaml : YamlLoader) (depth room : Nat) (fs : FileSystem) (r : Request) (c : Settings)
    (left right : Job) : Prop where
  /-- The settings are those of the configuration file and the command line. -/
  settings : ∃ fs' entries, SameButLog fs r.logging fs' ∧ r.mapping yaml fs' = .ok entries ∧
    r.settings room entries = .ok c
  /-- Nothing is wrong with them. -/
  errors : c.errors = []
  /-- The left job was read. -/
  leftRead : ∃ p, c.leftJob = some p ∧ ReadFrom depth (SameButLog fs r.logging) p left
  /-- The right job was read. -/
  rightRead : ∃ p, c.rightJob = some p ∧ ReadFrom depth (SameButLog fs r.logging) p right
  /-- No count of them has too many digits. -/
  legible : (Table.ofJobs left right c.minCount).stoppedBy = none

section

variable {env : Platform} {fs : FileSystem} {r : Request} {c : Settings} {t : Table} {s s' : Session}
  {e : Stop}

theorem logging_started (h : Started fs r s) : Logging fs r.logging s := by
  rcases Log.configure_spec fs r.logging with ⟨s₁, hconfigure, hlogging⟩ | ⟨s₁, p, fault, hconfigure, -⟩
  · cases h.symm.trans hconfigure
    exact hlogging
  · cases h.symm.trans hconfigure

theorem keeps_settle : Keeps (Logging fs r.logging) (settle env r) := by
  have hlog : ∀ s rs, Logging fs r.logging s → Logging fs r.logging (s.logAll env.toContext rs) :=
    fun s rs h => h.logAll env.toContext rs
  unfold settle
  rw [configured_eq]
  exact (Keeps.get.bind fun s => .orFail _ _).bind fun entries => (Keeps.record hlog _).bind fun _ =>
    (Keeps.orFail _ _).bind fun c => .stopIf ((Keeps.record hlog _).bind fun _ => .stopIf (.pure c) _) _

theorem logging_settled (h : Settled env fs r c s) : Logging fs r.logging s := by
  obtain ⟨s₀, hstart, hsettle⟩ := h
  exact keeps_settle.yields (logging_started hstart) hsettle

theorem logging_tabulated (h : Tabulated env fs r c t s) : Logging fs r.logging s := by
  obtain ⟨s₁, hsettled, htabulate⟩ := h
  exact (keeps_tabulate fun s rs h => h.logAll env.toContext rs).yields (logging_settled hsettled) htabulate

/-- A comparison that is not made has changed nothing but the log file before its output is delivered. -/
theorem sameButLog_stopped (h : Stopped env fs r e s) :
    SameButLog fs r.logging s.files ∨
      ∃ c t s₁ fault, Tabulated env fs r c t s₁ ∧ Undelivered c t s₁ fault s ∧ e = .failed (.output fault) := by
  cases h with
  | logFile configure =>
    rcases Log.configure_spec fs r.logging with
      ⟨s₁, hconfigure, -⟩ | ⟨s₁, p, fault, hconfigure, -, -, hfiles, -⟩
    · cases configure.symm.trans hconfigure
    · cases configure.symm.trans hconfigure
      rw [hfiles]
      exact .inl ⟨.refl _ fs, fun _ => rfl⟩
  | unsettled started settle =>
    exact .inl (keeps_settle.stops (logging_started started) (stops_settle.mpr settle)).files
  | untabulated settled tabulate =>
    exact .inl ((keeps_tabulate fun s rs h => h.logAll env.toContext rs).stops
      (logging_settled settled) tabulate).files
  | undelivered tabulated deliver => exact .inr ⟨_, _, _, _, tabulated, deliver, rfl⟩

/-- A table has two jobs that the request is about behind it. -/
theorem basis_of_tabulated (h : Tabulated env fs r c t s) :
    ∃ left right, Basis env.yaml env.depth env.room fs r c left right ∧ t = comparisonOf c left right := by
  obtain ⟨s₁, hsettled, htabulate⟩ := h
  have hlogging := logging_settled hsettled
  obtain ⟨s₀, hstart, hsettle⟩ := hsettled
  obtain ⟨entries, hmapping, hsettings, -, herrors, -⟩ := yields_settle.mp hsettle
  obtain ⟨left, right, s₂, ⟨s₃, hleft, hright⟩, hlegible, rfl, -⟩ := yields_tabulate.mp htabulate
  obtain ⟨hleftJob, hrightJob, -, -⟩ := errors_eq_nil_iff.mp herrors
  obtain ⟨p, hp⟩ := Option.ne_none_iff_exists'.mp hleftJob
  obtain ⟨q, hq⟩ := Option.ne_none_iff_exists'.mp hrightJob
  rw [hp] at hleft
  rw [hq] at hright
  have hlog : ∀ s rs, Logging fs r.logging s → Logging fs r.logging (s.logAll env.toContext rs) :=
    fun s rs h => h.logAll env.toContext rs
  -- The right job is read when the records of the left one are in the log file.
  have hafter : Logging fs r.logging s₃ := (keeps_loadSide hlog _).yields hlogging hleft
  refine ⟨left, right, ?_, rfl⟩
  exact {
    settings := ⟨s₀.files, entries, (logging_started hstart).files, hmapping, hsettings⟩
    errors := herrors
    leftRead := ⟨p, hp, readFrom_loadSide hlog (fun _ h => h.files) hlogging hleft⟩
    rightRead := ⟨q, hq, readFrom_loadSide hlog (fun _ h => h.files) hafter hright⟩
    legible := hlegible }

end

end BenchCompare.Command
