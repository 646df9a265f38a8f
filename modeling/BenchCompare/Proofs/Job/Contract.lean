import BenchCompare.Command.Run
import BenchCompare.Proofs.Job.Faults
import BenchCompare.Proofs.Json.Nesting
import BenchCompare.Proofs.Text.Ascii

/-! # What loading promises

  A run is loaded if and only if one lies at its path, and a job if and only if
  there are runs in all of its files.  If not, the fault is as promised or one of
  the exceptions, about the path of the run, or about one of the files of the
  job.  A directory is no run, but it never keeps a job from being loaded: only
  the files that it holds are tried.

  Main statement: `loading_contract`, with two files behind it for which the
  promise is broken.
-/

namespace BenchCompare

namespace FileSystem

/-- The files of a job: the path itself, or the run files of the directory that lies there.  What is named
as a run there and cannot be asked what it is may be one of them.  A directory that may not be listed shows
no files. -/
inductive JobFile (fs : FileSystem) (p : Path) : Path → Prop
  | self (node : ∀ children, fs.find? p ≠ some (.dir children)) : JobFile fs p p
  | child {children : List (Text × FileTree)} {name : Text} {content : ByteArray}
      (directory : fs.find? p = some (.dir children)) (listed : fs.mayRead p = true)
      (file : (name, .file content) ∈ children) (run : isRunName name = true) : JobFile fs p (p.child name)
  | untold {children : List (Text × FileTree)} {name : Text} {node : FileTree} {fault : FileFault}
      (directory : fs.find? p = some (.dir children)) (listed : fs.mayRead p = true)
      (entry : (name, node) ∈ children) (run : isRunName name = true)
      (path : fs.holds (p.child name) = .error fault) : JobFile fs p (p.child name)

/-- What those who load a run are promised, and what not. -/
structure RunContract (depth : Nat) (fs : FileSystem) (p : Path) : Prop where
  /-- A run is returned exactly if there is one. -/
  returns : (∃ run, (loadRun depth fs p).result = .ok run) ↔ fs.HoldsRun depth p
  /-- A fault is as promised, or an exception. -/
  fails : ∀ fault, (loadRun depth fs p).result = .error fault → fs.Promised p fault ∨ fs.Escapes depth p fault
  /-- The path is said to be missing exactly if nothing lies there. -/
  missing : ∀ fault, (loadRun depth fs p).result = .error fault →
    (fault.kind = .missing ↔ fs.holds p = .ok false)
  /-- The exceptions are no mere possibilities. -/
  escapes : ∀ fault, fs.Escapes depth p fault → (loadRun depth fs p).result = .error fault
  /-- An exception is of another kind, or its message is the same wherever the file lies. -/
  unnamed : ∀ fault, fs.Escapes depth p fault →
    fault.kind = .overflow ∨ fault.kind = .refused ∨ fault.kind = .exhausted ∨ fault.kind = .badValue ∧
      ∀ fs' q, fs'.find? q = fs.find? p → fs'.mayRead q = true → (loadRun depth fs' q).result = .error fault
  /-- Of what lies at a path, a directory alone is no file. -/
  directory : fs.IsTree → fs.Escapes depth p (.unreadable (.isDirectory p)) →
    ∃ children, fs.find? p = some (.dir children)
  /-- Texts without so many digits in a row hold no integer that is too long. -/
  digits : ∀ d, fs.Escapes depth p (.longInteger d) →
    Decimal.maxDigits < d ∧ ∃ text, fs.readText p = .ok text ∧ HasDigits text d
  /-- Texts without so many opening brackets and braces are not nested too deep. -/
  nesting : ∀ container, fs.Escapes depth p (.tooDeep container) →
    ∃ text, fs.readText p = .ok text ∧ depth < text.countP Json.opensContainer

/-- What those who load a job are promised, and what not. -/
structure JobContract (depth : Nat) (fs : FileSystem) (p : Path) : Prop where
  /-- A job is returned exactly if there are runs in all of its files. -/
  returns : (∃ job, (loadJob depth fs p).result = .ok job) ↔
    fs.holds p = .ok true ∧ ∀ q, fs.JobFile p q → fs.HoldsRun depth q
  /-- A fault is as promised, or an exception, for one of the files. -/
  fails : ∀ fault, (loadJob depth fs p).result = .error fault →
    ∃ q, fs.JobFile p q ∧ (fs.Promised q fault ∨ fs.Escapes depth q fault)
  /-- The path is said to be missing exactly if nothing lies there. -/
  missing : (loadJob depth fs p).result = .error (.noJob p) ↔ fs.holds p = .ok false
  /-- What is no directory is loaded as a single run. -/
  single : fs.holds p = .ok true → (∀ children, fs.find? p ≠ some (.dir children)) →
    (loadJob depth fs p).result = (loadRun depth fs p).result.map fun run => [run]
  /-- No job fails because of a directory. -/
  directory : fs.IsTree → ∀ q, (loadJob depth fs p).result ≠ .error (.unreadable (.isDirectory q))

variable {depth : Nat} {fs : FileSystem} {p q : Path}

/-! ### One run -/

theorem Escapes.kind_ne_missing {fault : LoadFault} (h : fs.Escapes depth p fault) :
    fault.kind ≠ .missing := by
  intro hkind
  cases h with
  | illegible file => cases file <;> cases hkind
  | _ => cases hkind

theorem promised_or_escapes {fault : LoadFault} (h : readRun depth fs p = .error fault) :
    fs.Promised p fault ∨ fs.Escapes depth p fault := by
  rcases readRun_cases h with ⟨hholds, rfl⟩ | hescapes | ⟨hkind, hnames⟩
  · exact .inl (.missing rfl hholds)
  · exact .inr hescapes
  · exact .inl (.named hkind hnames)

theorem kind_eq_missing_iff {fault : LoadFault} (h : readRun depth fs p = .error fault) :
    fault.kind = .missing ↔ fs.holds p = .ok false := by
  constructor
  · intro hkind
    rcases readRun_cases h with ⟨hholds, -⟩ | hescapes | ⟨hkind', -⟩
    · exact hholds
    · exact absurd hkind hescapes.kind_ne_missing
    · rw [hkind'] at hkind
      cases hkind
  · intro hholds
    rw [readRun_eq_noRun hholds] at h
    cases h
    rfl

theorem exists_dir_of_noFile (hfs : fs.IsTree) (hholds : fs.holds p = .ok true)
    (hnode : ∀ content, fs.find? p ≠ some (.file content)) :
    ∃ children, fs.find? p = some (.dir children) := by
  obtain ⟨node, hfind⟩ := exists_find?_of_holds hfs hholds
  cases node with
  | file content => exact absurd hfind (hnode content)
  | dir children => exact ⟨children, hfind⟩

theorem runContract (depth : Nat) (fs : FileSystem) (p : Path) : RunContract depth fs p where
  returns := by
    rw [loadRun_result]
    exact exists_readRun_iff
  fails fault h := by
    rw [loadRun_result] at h
    exact promised_or_escapes h
  missing fault h := by
    rw [loadRun_result] at h
    exact kind_eq_missing_iff h
  escapes fault h := by
    rw [loadRun_result]
    exact readRun_of_escapes h
  unnamed fault h := by
    have helsewhere : fault.kind = .badValue → ∀ fs' q, fs'.find? q = fs.find? p →
        fs'.mayRead q = true → (loadRun depth fs' q).result = .error fault := by
      intro hkind fs' q hsame hread
      rw [loadRun_result]
      exact readRun_of_escapes (h.elsewhere hkind hsame hread)
    cases h with
    | illegible file =>
      cases file with
      | encoding => exact .inr (.inr (.inr ⟨rfl, helsewhere rfl⟩))
      | _ => exact .inr (.inl rfl)
    | longInteger => exact .inr (.inr (.inr ⟨rfl, helsewhere rfl⟩))
    | tooDeep => exact .inr (.inr (.inl rfl))
    | overflow => exact .inl rfl
  directory hfs h := by
    cases h with
    | illegible file =>
      cases file with
      | noFile there read node => exact exists_dir_of_noFile hfs there node
  digits d h := by
    cases h with
    | longInteger read integer =>
      obtain ⟨hlong, hdigits⟩ := Json.parse_longInteger integer
      exact ⟨hlong, _, read, hdigits⟩
  nesting container h := by
    cases h with
    | tooDeep read nested => exact ⟨_, read, Json.parse_tooDeep nested⟩

/-! ### The files of a job -/

theorem ne_dots_of_isRunName {name : Text} (h : isRunName name = true) : name ≠ "." ∧ name ≠ ".." := by
  constructor
  · rintro rfl
    revert h
    decide
  · rintro rfl
    revert h
    decide

theorem mem_fileNames {children : List (Text × FileTree)} {name : Text} :
    name ∈ (FileTree.dir children).fileNames ↔
      ∃ content, (name, FileTree.file content) ∈ children := by
  simp only [FileTree.fileNames, List.mem_map, List.mem_filter]
  constructor
  · rintro ⟨⟨_, node⟩, ⟨hmem, hnode⟩, rfl⟩
    cases node with
    | file content => exact ⟨content, hmem⟩
    | dir _ => cases hnode
  · rintro ⟨content, hmem⟩
    exact ⟨_, ⟨hmem, rfl⟩, rfl⟩

theorem mem_runFiles {children : List (Text × FileTree)} :
    q ∈ runFiles p (.dir children) ↔
      ∃ name content, (name, FileTree.file content) ∈ children ∧ isRunName name = true ∧
        q = p.child name := by
  unfold runFiles
  rw [List.mem_map]
  constructor
  · rintro ⟨name, hname, rfl⟩
    rw [List.mem_mergeSort, List.mem_filter, mem_fileNames] at hname
    obtain ⟨⟨content, hmem⟩, hrun⟩ := hname
    exact ⟨name, content, hmem, hrun, rfl⟩
  · rintro ⟨name, content, hmem, hrun, rfl⟩
    refine ⟨name, ?_, rfl⟩
    rw [List.mem_mergeSort, List.mem_filter, mem_fileNames]
    exact ⟨⟨content, hmem⟩, hrun⟩

theorem untold?_eq_some_iff {fault : FileFault} :
    fs.untold? q = some fault ↔ fs.holds q = .error fault := by
  unfold untold?
  cases fs.holds q with
  | ok there => exact iff_of_false nofun nofun
  | error fault' => simp

theorem unasked?_eq_none_iff {children : List (Text × FileTree)} :
    unasked? fs p (.dir children) = none ↔
      ∀ name node, (name, node) ∈ children → isRunName name = true → fs.untold? (p.child name) = none := by
  unfold unasked?
  rw [List.findSome?_eq_none_iff, List.forall_mem_map]
  simp only [FileTree.names, List.mem_filter, List.mem_map]
  constructor
  · intro h name node hmem hrun
    exact h name ⟨⟨_, hmem, rfl⟩, hrun⟩
  · rintro h name ⟨⟨⟨_, node⟩, hmem, rfl⟩, hrun⟩
    exact h _ node hmem hrun

theorem exists_of_unasked?_eq_some {children : List (Text × FileTree)} {fault : FileFault}
    (h : unasked? fs p (.dir children) = some fault) :
    ∃ name node, (name, node) ∈ children ∧ isRunName name = true ∧
      fs.holds (p.child name) = .error fault := by
  obtain ⟨q, hq, hfault⟩ := List.exists_of_findSome?_eq_some h
  obtain ⟨name, hname, rfl⟩ := List.mem_map.mp hq
  simp only [FileTree.names, List.mem_filter, List.mem_map] at hname
  obtain ⟨⟨⟨_, node⟩, hmem, rfl⟩, hrun⟩ := hname
  exact ⟨_, node, hmem, hrun, untold?_eq_some_iff.mp hfault⟩

/-- A directory that may not be listed passes for one without runs. -/
theorem jobFiles_of_unlisted {children : List (Text × FileTree)}
    (h : fs.find? p = some (.dir children)) (hread : fs.mayRead p = false) :
    jobFiles fs p = ⟨[noRunsRecord p], .ok []⟩ := by
  have hfilter : (some (FileTree.dir children)).filter FileTree.isDir = some (.dir children) := rfl
  simp only [jobFiles, holds_of_find? h, h, hfilter, hread, Bool.not_false, if_true]

theorem jobFiles_of_dir {children : List (Text × FileTree)} (h : fs.find? p = some (.dir children))
    (hread : fs.mayRead p = true) (hpaths : unasked? fs p (.dir children) = none) :
    jobFiles fs p = ⟨if (runFiles p (.dir children)).isEmpty then [noRunsRecord p] else [],
      .ok (runFiles p (.dir children))⟩ := by
  have hfilter : (some (FileTree.dir children)).filter FileTree.isDir = some (.dir children) := rfl
  simp only [jobFiles, holds_of_find? h, h, hfilter, hread, hpaths, Bool.not_true, Bool.false_eq_true,
    if_false]

theorem jobFiles_of_unasked {children : List (Text × FileTree)} {fault : FileFault}
    (h : fs.find? p = some (.dir children)) (hread : fs.mayRead p = true)
    (hpath : unasked? fs p (.dir children) = some fault) :
    jobFiles fs p = ⟨[], .error (.unreadable fault)⟩ := by
  have hfilter : (some (FileTree.dir children)).filter FileTree.isDir = some (.dir children) := rfl
  simp only [jobFiles, holds_of_find? h, h, hfilter, hread, hpath, Bool.not_true, Bool.false_eq_true,
    if_false]

theorem jobFiles_of_no_dir (hholds : fs.holds p = .ok true)
    (hnode : ∀ children, fs.find? p ≠ some (.dir children)) : (jobFiles fs p).result = .ok [p] := by
  have hnone : (fs.find? p).filter FileTree.isDir = none := by
    cases hfind : fs.find? p with
    | none => rfl
    | some node =>
      cases node with
      | file content => rfl
      | dir children => exact absurd hfind (hnode children)
  unfold jobFiles
  rw [hholds]
  dsimp only
  rw [hnone]

theorem jobFiles_of_missing (h : fs.holds p = .ok false) :
    (jobFiles fs p).result = .error (.noJob p) := by
  unfold jobFiles
  rw [h]

theorem jobFiles_of_refused {fault : FileFault} (h : fs.holds p = .error fault) :
    (jobFiles fs p).result = .error (.unreadable fault) := by
  unfold jobFiles
  rw [h]

/-- The files that are tried are those of the job, unless one of them cannot be asked what it is. -/
theorem jobFiles_cases (h : fs.holds p = .ok true) :
    (∃ files, (jobFiles fs p).result = .ok files ∧ ∀ q, q ∈ files ↔ fs.JobFile p q) ∨
      ∃ q fault, (jobFiles fs p).result = .error (.unreadable fault) ∧ fs.JobFile p q ∧
        fs.holds q = .error fault := by
  by_cases hdir : ∃ children, fs.find? p = some (.dir children)
  · obtain ⟨children, hfind⟩ := hdir
    cases hread : fs.mayRead p with
    | false =>
      refine .inl ⟨[], congrArg Loading.result (jobFiles_of_unlisted hfind hread), fun q => ?_⟩
      refine iff_of_false List.not_mem_nil ?_
      intro hq
      cases hq with
      | self node => exact node children hfind
      | child _ listed => cases hread.symm.trans listed
      | untold _ listed => cases hread.symm.trans listed
    | true =>
      cases hpaths : unasked? fs p (.dir children) with
      | none =>
        refine .inl ⟨_, congrArg Loading.result (jobFiles_of_dir hfind hread hpaths), ?_⟩
        intro q
        rw [mem_runFiles]
        constructor
        · rintro ⟨name, content, hmem, hrun, rfl⟩
          exact .child hfind hread hmem hrun
        · intro hq
          cases hq with
          | self node => exact absurd hfind (node children)
          | child directory listed file run =>
            rw [hfind] at directory
            cases directory
            exact ⟨_, _, file, run, rfl⟩
          | untold directory listed entry run path =>
            rw [hfind] at directory
            cases directory
            have htold := unasked?_eq_none_iff.mp hpaths _ _ entry run
            rw [untold?_eq_some_iff.mpr path] at htold
            cases htold
      | some fault =>
        obtain ⟨name, node, hmem, hrun, hpath⟩ := exists_of_unasked?_eq_some hpaths
        exact .inr ⟨_, fault, congrArg Loading.result (jobFiles_of_unasked hfind hread hpaths),
          .untold hfind hread hmem hrun hpath, hpath⟩
  · have hnode : ∀ children, fs.find? p ≠ some (.dir children) := not_exists.mp hdir
    refine .inl ⟨[p], jobFiles_of_no_dir h hnode, ?_⟩
    intro q
    rw [List.mem_singleton]
    constructor
    · rintro rfl
      exact .self hnode
    · intro hq
      cases hq with
      | self node => rfl
      | child directory => exact absurd directory (hnode _)
      | untold directory => exact absurd directory (hnode _)

/-- Where nothing lies, the path is itself the only file of the job. -/
theorem JobFile.self_of_not_holds (h : fs.holds p ≠ .ok true) : fs.JobFile p p := by
  refine .self ?_
  intro children hfind
  exact h (holds_of_find? hfind)

/-- A file of a job is no directory. -/
theorem JobFile.readRun_ne_isDirectory (hfs : fs.IsTree) (h : fs.JobFile p q) (q' : Path) :
    readRun depth fs q ≠ .error (.unreadable (.isDirectory q')) := by
  intro hfault
  have hescapes : fs.Escapes depth q (.unreadable (.isDirectory q')) := by
    rcases promised_or_escapes hfault with hpromised | hescapes
    · cases hpromised with
      | missing kind => cases kind
      | named kind => cases kind
    · exact hescapes
  have hfile : fs.Illegible q (.isDirectory q') := by
    cases hescapes with
    | illegible file => exact file
  cases hfile with
  | noFile there read node =>
    obtain ⟨children, hfind⟩ := exists_dir_of_noFile hfs there node
    cases h with
    | self hnode => exact hnode children hfind
    | @child siblings name content directory listed file run =>
      -- Something lies at the path of the child, so it is the file that the directory holds.
      obtain ⟨names, hnames⟩ := holds_eq_true_iff.mp there
      obtain ⟨hpath, -⟩ := resolve_eq_ok_iff.mp hnames
      have hlookup : siblings.lookup name = some (.file content) :=
        lookup_of_mem (isListing_of_find? hfs directory).distinct file
      have hlisted : name.listed = name := (isListing_of_find? hfs directory).listed _ file
      obtain ⟨hdot, hdots⟩ := ne_dots_of_isRunName run
      have henter := mayEnter_of_child directory hlookup hlisted hdot hdots hnames
      have hchild := find?_child directory hlookup hlisted hdot hdots hpath henter
      rw [hfind] at hchild
      cases hchild
    | untold directory listed entry run path => cases there.symm.trans path

/-! ### Jobs -/

theorem loadRuns_result (depth : Nat) (fs : FileSystem) (files : List Path) :
    (loadRuns depth fs files).result = files.mapM (readRun depth fs) := by
  induction files with
  | nil => rfl
  | cons p files ih =>
    rw [List.mapM_cons, ← ih, ← loadRun_result]
    simp only [loadRuns]
    cases (loadRun depth fs p).result with
    | error fault => rfl
    | ok run => cases (loadRuns depth fs files).result <;> rfl

theorem loadJob_result (depth : Nat) (fs : FileSystem) (p : Path) :
    (loadJob depth fs p).result = (jobFiles fs p).result >>= fun files => files.mapM (readRun depth fs) := by
  simp only [loadJob, ← loadRuns_result]
  cases (jobFiles fs p).result with
  | error fault => rfl
  | ok files =>
    have hbind : (Except.ok files >>= fun files => (loadRuns depth fs files).result) =
        (loadRuns depth fs files).result := rfl
    rw [hbind]
    dsimp only
    cases (loadRuns depth fs files).result <;> rfl

/-- A job that cannot be loaded has the fault of one of its files. -/
theorem loadJob_fails {fault : LoadFault} (h : (loadJob depth fs p).result = .error fault) :
    fs.holds p = .ok false ∧ fault = .noJob p ∨
      (∃ m, fs.holds p = .error m ∧ fault = .unreadable m) ∨
      fs.holds p = .ok true ∧ ∃ q, fs.JobFile p q ∧ readRun depth fs q = .error fault := by
  rw [loadJob_result] at h
  cases hholds : fs.holds p with
  | error m =>
    rw [jobFiles_of_refused hholds] at h
    cases h
    exact .inr (.inl ⟨m, rfl, rfl⟩)
  | ok there =>
    cases there with
    | false =>
      rw [jobFiles_of_missing hholds] at h
      cases h
      exact .inl ⟨rfl, rfl⟩
    | true =>
      rcases jobFiles_cases hholds with ⟨files, hfiles, hmem⟩ | ⟨q, m, hfault, hjob, hpath⟩
      · rw [hfiles] at h
        have hfirst := (mapM_eq_error (fun _ => exists_readRun_iff) (fun _ => Iff.rfl) files).mp h
        obtain ⟨before, q, after, rfl, -, hq⟩ := hfirst
        have hjob : fs.JobFile p q := (hmem q).mp (List.mem_append_right before List.mem_cons_self)
        exact .inr (.inr ⟨rfl, q, hjob, hq⟩)
      · rw [hfault] at h
        cases h
        exact .inr (.inr ⟨rfl, q, hjob, readRun_of_holds_error hpath⟩)

theorem exists_loadJob_iff : (∃ job, (loadJob depth fs p).result = .ok job) ↔
    fs.holds p = .ok true ∧ ∀ q, fs.JobFile p q → fs.HoldsRun depth q := by
  rw [loadJob_result]
  cases hholds : fs.holds p with
  | error m =>
    rw [jobFiles_of_refused hholds]
    constructor
    · rintro ⟨job, h⟩
      cases h
    · rintro ⟨h, -⟩
      cases h
  | ok there =>
    cases there with
    | false =>
      rw [jobFiles_of_missing hholds]
      constructor
      · rintro ⟨job, h⟩
        cases h
      · rintro ⟨h, -⟩
        cases h
    | true =>
      rw [and_iff_right rfl]
      rcases jobFiles_cases hholds with ⟨files, hfiles, hmem⟩ | ⟨q, m, hfault, hjob, hpath⟩
      · rw [hfiles]
        have hall : (∃ job, files.mapM (readRun depth fs) = .ok job) ↔ ∀ q ∈ files, fs.HoldsRun depth q := by
          simp only [mapM_eq_ok (fun _ _ => Iff.rfl), exists_forall₂_iff, exists_readRun_iff]
        simp only [hmem] at hall
        exact hall
      · rw [hfault]
        refine iff_of_false nofun ?_
        intro hall
        obtain ⟨run, hrun⟩ := exists_readRun_iff.mpr (hall q hjob)
        rw [readRun_of_holds_error hpath] at hrun
        cases hrun

theorem loadJob_of_no_dir (hholds : fs.holds p = .ok true)
    (hnode : ∀ children, fs.find? p ≠ some (.dir children)) :
    (loadJob depth fs p).result = (readRun depth fs p).map fun run => [run] := by
  rw [loadJob_result, jobFiles_of_no_dir hholds hnode]
  show [p].mapM (readRun depth fs) = _
  rw [List.mapM_cons, List.mapM_nil]
  cases readRun depth fs p <;> rfl

theorem readRun_ne_noJob (depth : Nat) (fs : FileSystem) (p q : Path) : readRun depth fs p ≠ .error (.noJob q) := by
  intro h
  rcases readRun_cases h with ⟨-, hfault⟩ | hescapes | ⟨hkind, -⟩
  · cases hfault
  · exact hescapes.kind_ne_missing rfl
  · cases hkind

theorem jobContract (depth : Nat) (fs : FileSystem) (p : Path) : JobContract depth fs p where
  returns := exists_loadJob_iff
  fails fault h := by
    rcases loadJob_fails h with ⟨hholds, rfl⟩ | ⟨m, hholds, rfl⟩ | ⟨hholds, q, hq, hfault⟩
    · have hself : fs.JobFile p p := .self_of_not_holds fun h => by cases hholds.symm.trans h
      exact ⟨p, hself, .inl (.missing rfl hholds)⟩
    · have hself : fs.JobFile p p := .self_of_not_holds fun h => by cases hholds.symm.trans h
      exact ⟨p, hself, .inr (.illegible (illegible_of_holds hholds))⟩
    · exact ⟨q, hq, promised_or_escapes hfault⟩
  missing := by
    constructor
    · intro h
      rcases loadJob_fails h with ⟨hholds, -⟩ | ⟨m, -, hfault⟩ | ⟨-, q, -, hfault⟩
      · exact hholds
      · cases hfault
      · exact absurd hfault (readRun_ne_noJob depth fs q p)
    · intro hholds
      rw [loadJob_result, jobFiles_of_missing hholds]
      rfl
  single hholds hnode := by
    rw [loadRun_result]
    exact loadJob_of_no_dir hholds hnode
  directory hfs q h := by
    rcases loadJob_fails h with ⟨-, hfault⟩ | ⟨m, hholds, hfault⟩ | ⟨-, q', hq', hfault⟩
    · cases hfault
    · cases hfault
      cases illegible_of_holds hholds with
      | noFile there => cases hholds.symm.trans there
    · exact hq'.readRun_ne_isDirectory hfs q hfault

end FileSystem

/-! ### The command line -/

/-- The command line takes a fault for a mistake of the user exactly if it is of one of the two kinds. -/
theorem mendableJob_iff (fault : LoadFault) :
    Command.mendableJob fault = true ↔ fault.kind = .missing ∨ fault.kind = .badValue := by
  cases fault with
  | unreadable fileFault =>
    cases fileFault <;> simp [Command.mendableJob, Command.mendableFile, LoadFault.kind]
  | notRun p runFault =>
    cases runFault with
    | badGroup test recordFault =>
      cases recordFault <;> simp [Command.mendableJob, LoadFault.kind]
    | _ => simp [Command.mendableJob, LoadFault.kind]
  | _ => simp [Command.mendableJob, LoadFault.kind]

/-! ### Main statement -/

/-- **What loading promises**, about one run and about a job. -/
theorem loading_contract (depth : Nat) (fs : FileSystem) (p : Path) :
    fs.RunContract depth p ∧ fs.JobContract depth p := ⟨fs.runContract depth p, fs.jobContract depth p⟩

/-- Whether something fails with a fault can be decided if faults can be told apart. -/
instance decidableEqError {ε α : Type} [DecidableEq ε] (x : Except ε α) (e : ε) : Decidable (x = .error e) :=
  match x with
  | .ok _ => isFalse nofun
  | .error e' => decidable_of_iff (e' = e) ⟨congrArg _, Except.error.inj⟩

/-- A file of ASCII characters, with one kind of line end, is read as it is. -/
theorem FileSystem.readText_of_asciiFile {fs : FileSystem} {p : Path} {text : List Char}
    (hfile : fs.HoldsBytes p (Text.asciiFile text))
    (h : (text.all fun c => c.toNat < 0x80 && c ≠ '\r') = true) : fs.readText p = .ok text := by
  have hplain : ∀ c ∈ text, c.toNat < 0x80 ∧ c ≠ '\r' := by
    intro c hc
    simpa using List.all_eq_true.mp h c hc
  rw [hfile.readText, Text.decode_asciiFile fun c hc => (hplain c hc).1]
  exact congrArg Except.ok (Text.unifyLines_of_plain fun c hc => (hplain c hc).2)

/-- The path of a run file. -/
def runPath : Path := ⟨0, ["run.json"]⟩

/-- A directory that holds a single run file. -/
def onlyRun (content : ByteArray) : FileSystem := ⟨.dir [("run.json", .file content)], [], .all⟩

theorem find?_onlyRun (content : ByteArray) :
    (onlyRun content).find? runPath = some (.file content) := by cbv

theorem holdsBytes_onlyRun (content : ByteArray) : (onlyRun content).HoldsBytes runPath content :=
  ⟨find?_onlyRun content, by cbv⟩

/-- A run file with one byte, which starts no character. -/
def undecodable : FileSystem := onlyRun ⟨#[0xff]⟩

theorem loading_contract_undecodable :
    (loadRun Json.usualDepth undecodable runPath).result =
        .error (.unreadable (.encoding ⟨0, 1, 0xff, .invalidStart⟩)) ∧
      (loadJob Json.usualDepth undecodable runPath).result =
        .error (.unreadable (.encoding ⟨0, 1, 0xff, .invalidStart⟩)) ∧
      ¬ undecodable.HoldsRun Json.usualDepth runPath ∧
      ∀ fs q, fs.find? q = some (.file ⟨#[0xff]⟩) → fs.mayRead q = true →
        (loadRun Json.usualDepth fs q).result =
          .error (.unreadable (.encoding ⟨0, 1, 0xff, .invalidStart⟩)) := by
  obtain ⟨hrun, hjob⟩ := loading_contract Json.usualDepth undecodable runPath
  have hfile : undecodable.find? runPath = some (.file ⟨#[0xff]⟩) := find?_onlyRun _
  have hbytes : Text.decode ⟨#[0xff]⟩ = .error ⟨0, 1, 0xff, .invalidStart⟩ := by decide +kernel
  have hescapes : undecodable.Escapes Json.usualDepth runPath (.unreadable (.encoding _)) :=
    .illegible (.encoding (holdsBytes_onlyRun _) hbytes)
  have hresult := hrun.escapes _ hescapes
  refine ⟨hresult, ?_, ?_, ?_⟩
  · have hnode : ∀ children, undecodable.find? runPath ≠ some (.dir children) := by
      intro children hdir
      cases hfile.symm.trans hdir
    rw [hjob.single (FileSystem.holds_of_find? hfile) hnode, hresult]
    rfl
  · rw [← hrun.returns, hresult]
    rintro ⟨run, h⟩
    cases h
  · intro fs q hsame
    rcases hrun.unnamed _ hescapes with hkind | hkind | hkind | ⟨-, helsewhere⟩
    · cases hkind
    · cases hkind
    · cases hkind
    · exact helsewhere fs q (hsame.trans hfile.symm)

/-- A run whose one value is the 400th power of ten. -/
def oversizedText : List Char :=
  "\x7b\"T\": [\x7b\"dataItems\": [\x7b\"data\": \x7b\"P\": 1".toList ++ List.replicate 400 '0' ++
    "\x7d\x7d]\x7d]\x7d".toList

/-- The file is there, and its text is JSON, but the fault is no bad value and does not name the file. -/
theorem oversizedRun_not_promised :
    let fs := onlyRun (Text.asciiFile oversizedText)
    let fault := LoadFault.notRun runPath (.badGroup "T" .hugeInteger)
    fs.find? runPath = some (.file (Text.asciiFile oversizedText)) ∧
      (loadRun Json.usualDepth fs runPath).result = .error fault ∧ ¬ fs.Promised runPath fault ∧
      fault.message = "int too large to convert to float" := by
  have hfile := find?_onlyRun (Text.asciiFile oversizedText)
  have hplain : ∀ c ∈ oversizedText, c.toNat < 0x80 ∧ c ≠ '\r' := by
    unfold oversizedText
    rw [List.forall_mem_append, List.forall_mem_append]
    refine ⟨⟨by simp, ?_⟩, by simp⟩
    intro c hc
    rw [List.eq_of_mem_replicate hc]
    decide
  have hread : (onlyRun (Text.asciiFile oversizedText)).readText runPath = .ok oversizedText := by
    rw [(holdsBytes_onlyRun _).readText, Text.decode_asciiFile fun c hc => (hplain c hc).1]
    exact congrArg Except.ok (Text.unifyLines_of_plain fun c hc => (hplain c hc).2)
  refine ⟨hfile, ?_, ?_, rfl⟩
  · rw [FileSystem.loadRun_result, FileSystem.readRun_of_readText hread]
    decide +kernel
  · intro hpromised
    cases hpromised with
    | missing kind => cases kind
    | named kind => cases kind

end BenchCompare
