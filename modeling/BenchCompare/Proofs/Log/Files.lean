import BenchCompare.Log.Session
import BenchCompare.Proofs.File.Write

/-! # What logging changes

  Logging writes a single file.  It is made when logging is set up, under a path
  from the root on, and what was found at a path once is found there again.

  * `LogPlace fs setup names`: the log file of a setup lies at these names.
  * `SameButLog fs setup fs'`: nothing but the log file differs.
  * `Configured setup s outcome`: how a setup can go.
  * `Logging fs setup s`: a session with the sinks of the setup, that started on
    `fs` and has changed nothing but the log file.

  Main statements: `configure_spec` for a setup, and `Logging.logAll` for every
  record after it.
-/

namespace BenchCompare

/-! ### Sessions -/

namespace Log

open FileSystem (ChangesOnly)

/-- The log file of a setup lies at these names. -/
def LogPlace (fs : FileSystem) (setup : Setup) (names : List Text) : Prop :=
  ∃ p, setup.file = some p ∧ fs.target (fs.absolute p) = .ok names

/-- Files that differ in nothing but the log file, and in nothing at all if there is none. -/
structure SameButLog (fs : FileSystem) (setup : Setup) (fs' : FileSystem) : Prop where
  /-- Only the log file was made or written. -/
  changes : ChangesOnly (LogPlace fs setup) fs fs'
  /-- Without a log file nothing was. -/
  unlogged : setup.file = none → fs' = fs

/-- A session of a setup, which has changed nothing but the log file. -/
structure Logging (fs : FileSystem) (setup : Setup) (s : Session) : Prop where
  /-- Records go to the console and to the log file. -/
  sinks : s.sinks =
    .console setup.least :: (setup.file.map fun p => Sink.file (fs.absolute p)).toList
  /-- The log file could be made where it is now. -/
  opened : ∀ p, setup.file = some p → ∃ names,
    fs.target (fs.absolute p) = .ok names ∧ s.files.resolve (fs.absolute p) = .ok names
  /-- Everything else is as it was. -/
  files : SameButLog fs setup s.files

variable {fs : FileSystem} {setup : Setup} {s : Session}

/-- How a setup can go: there is no log file, it was opened, or it cannot be opened. -/
inductive Configured (setup : Setup) (s : Session) : Session × Option FileSystem.FileFault → Prop
  | unlogged (file : setup.file = none) :
      Configured setup s ({ s with sinks := [.console setup.least] }, none)
  | opened {p : Path} {fs : FileSystem} (file : setup.file = some p)
      (opening : s.files.openText (s.files.absolute p) = .ok fs) :
      Configured setup s
        ({ s with sinks := [.console setup.least, .file (s.files.absolute p)], files := fs }, none)
  | refused {p : Path} {fault : FileSystem.FileFault} (file : setup.file = some p)
      (opening : s.files.openText (s.files.absolute p) = .error fault) :
      Configured setup s ({ s with sinks := [.console setup.least] }, some fault)

theorem configured_configure (s : Session) (setup : Setup) : Configured setup s (s.configure setup) := by
  unfold Session.configure
  cases hfile : setup.file with
  | none => exact .unlogged hfile
  | some p =>
    dsimp only [Option.map_some]
    split
    · next fs hopening => exact .opened hfile hopening
    · next fault hopening => exact .refused hfile hopening

/-- What a setup comes to: a session to work with, or a log file that cannot be written. -/
theorem configure_spec (fs : FileSystem) (setup : Setup) :
    (∃ s, (Session.start fs).configure setup = (s, none) ∧ Logging fs setup s) ∨
      ∃ s p fault, (Session.start fs).configure setup = (s, some fault) ∧ setup.file = some p ∧
        fs.target (fs.absolute p) = .error fault ∧ s.files = fs ∧ s.console = "" := by
  have hconfigured := configured_configure (Session.start fs) setup
  generalize (Session.start fs).configure setup = outcome at hconfigured ⊢
  cases hconfigured with
  | unlogged hfile =>
    refine .inl ⟨_, rfl, ?_, ?_, ?_⟩
    · rw [hfile]
      rfl
    · rw [hfile]
      nofun
    · exact ⟨.refl _ fs, fun _ => rfl⟩
  | @opened p fs' hfile hopening =>
    obtain ⟨⟨names, htarget⟩, happend⟩ := FileSystem.openText_eq_ok_iff.mp hopening
    obtain ⟨names', _, hplace, hchange, hresolve, -⟩ :=
      FileSystem.appendText_spec (p := fs.absolute p) rfl happend
    obtain rfl : names' = names :=
      Except.ok.inj (hplace.symm.trans (FileSystem.target_eq_ok_iff.mp htarget).1)
    refine .inl ⟨_, rfl, ?_, ?_, ?_⟩
    · rw [hfile]
      rfl
    · intro q hq
      rw [hfile] at hq
      cases hq
      exact ⟨names', htarget, hresolve⟩
    · refine ⟨hchange.mono ?_, ?_⟩
      · rintro names rfl
        exact ⟨p, hfile, htarget⟩
      · intro hnone
        rw [hfile] at hnone
        cases hnone
  | @refused p fault hfile hopening =>
    exact .inr ⟨_, p, fault, rfl, hfile, FileSystem.openText_eq_error_iff.mp hopening, rfl, rfl⟩

namespace Logging

theorem tell (h : Logging fs setup s) (text : Text) : Logging fs setup (s.tell text) :=
  ⟨h.sinks, h.opened, h.files⟩

/-- The log file takes a record, or does not, and nothing else is changed. -/
theorem take (h : Logging fs setup s) {sink : Sink} (hsink : sink ∈ s.sinks) (context : Context)
    (r : Record) : Logging fs setup (s.take context r sink) := by
  unfold Session.take
  cases sink with
  | console least => exact h.tell _
  | file q =>
    dsimp only
    split
    · exact h.tell _
    · split
      · next fs' happend =>
        rw [h.sinks] at hsink
        simp only [List.mem_cons, reduceCtorEq, false_or, Option.mem_toList,
          Option.map_eq_some_iff, Sink.file.injEq] at hsink
        obtain ⟨p, hp, rfl⟩ := hsink
        obtain ⟨names, htarget, hfound⟩ := h.opened p hp
        obtain ⟨names', _, hplace, hchange, -⟩ :=
          FileSystem.appendText_spec (by rfl) happend
        -- What is found where the log file was made is the log file.
        obtain rfl : names' = names := FileSystem.eq_of_place_of_resolve hplace hfound
        refine ⟨h.sinks, ?_, h.files.changes.trans (hchange.mono ?_), ?_⟩
        · intro q hq
          cases hp.symm.trans hq
          exact ⟨names', htarget, FileSystem.resolve_mono hchange hfound⟩
        · rintro names rfl
          exact ⟨p, hp, htarget⟩
        · intro hnone
          rw [hp] at hnone
          cases hnone
      · exact h

theorem log (h : Logging fs setup s) (context : Context) (r : Record) :
    Logging fs setup (s.log context r) := by
  have hfold : ∀ (sinks : List Sink) (s' : Session), Logging fs setup s' →
      (∀ sink ∈ sinks, sink ∈ s'.sinks) → Logging fs setup (sinks.foldl (Session.take context r) s') := by
    intro sinks
    induction sinks with
    | nil => exact fun _ h' _ => h'
    | cons sink sinks ih =>
      intro s' h' hsinks
      have htake := h'.take (hsinks sink List.mem_cons_self) context r
      refine ih _ htake ?_
      intro other hother
      -- The sinks stay those of the setup.
      rw [htake.sinks, ← h'.sinks]
      exact hsinks other (List.mem_cons_of_mem sink hother)
  unfold Session.log
  split
  · exact h.tell _
  · split
    · exact hfold s.sinks s h fun _ hsink => hsink
    · exact h

theorem logAll (h : Logging fs setup s) (context : Context) (rs : List Record) :
    Logging fs setup (s.logAll context rs) := by
  unfold Session.logAll
  induction rs generalizing s with
  | nil => exact h
  | cons r rs ih => exact ih (h.log context r)

end Logging

end Log

end BenchCompare
