import BenchCompare.Proofs.File.Path
import BenchCompare.Proofs.Job.Contract
import BenchCompare.Proofs.Text.Order

/-! # Jobs in directories

  A directory is loaded as its run files are, one after the other in the order of
  their names.  A run file is a regular file that the directory itself holds under
  a name that ends in `.json`.  It makes no difference in which order the directory
  is enumerated and what else lies there.  There are two exceptions.  A directory
  that may not be listed passes for one without run files.  And each entry with such
  a name is asked what it is: one whose path is too long, be it a file or not, cannot
  be asked, and none can if names may not be looked up in the directory.

  * `RunFile children name content`: the directory has this run file.
  * `RunNames children names`: these are the names of its run files, in order.
  * `Unasked fs p e fault`: the entry is named as a run, and it cannot be asked.
  * `DirectoryContract depth fs p children names`: how a directory is loaded that may
    be listed and has no such entries.

  Main statement: `directory_loaded_in_order`, with a directory behind it that has no
  run files but cannot be loaded.
-/

namespace BenchCompare

namespace FileSystem

/-! ### Run files -/

/-- A name ends as those of runs do. -/
def NamesRun (name : Text) : Prop := ∃ stem, name = stem ++ ".json"

/-- A directory holds a regular file under a name of a run. -/
def RunFile (children : List (Text × FileTree)) (name : Text) (content : ByteArray) : Prop :=
  NamesRun name ∧ (name, .file content) ∈ children

/-- The names of the run files of a directory, each one once, in the order of code points. -/
structure RunNames (children : List (Text × FileTree)) (names : List Text) : Prop where
  /-- Each name is below the next one. -/
  increasing : names.Pairwise (· < ·)
  /-- Each run file has its name there, and nothing else has. -/
  mem_iff : ∀ name, name ∈ names ↔ ∃ content, RunFile children name content

/-- An entry of a directory is named as a run, and this keeps it from being asked what it is. -/
inductive Unasked (fs : FileSystem) (p : Path) (e : Text × FileTree) : FileFault → Prop
  | tooLong (run : NamesRun e.1) (path : refusal? (p.child e.1).text = some .tooLong) :
      Unasked fs p e (.tooLong (p.child e.1))
  | denied (run : NamesRun e.1) (path : refusal? (p.child e.1).text = none)
      (enter : fs.mayEnter p = false) : Unasked fs p e (.denied (p.child e.1))

/-- All entries that are named as runs can be asked what they are. -/
def IsAsked (fs : FileSystem) (p : Path) (entries : List (Text × FileTree)) : Prop :=
  ∀ e ∈ entries, ∀ fault, ¬ Unasked fs p e fault

/-- How a directory is loaded that has run files with these names. -/
structure DirectoryContract (depth : Nat) (fs : FileSystem) (p : Path)
    (children : List (Text × FileTree)) (names : List Text) : Prop where
  /-- A job is returned exactly if each of the run files can be loaded. -/
  returns : (∃ job, (loadJob depth fs p).result = .ok job) ↔
    ∀ name content, RunFile children name content →
      ∃ run, (loadRun depth fs (p.child name)).result = .ok run
  /-- The job has one run for each run file, in order, which is the one that is loaded from it. -/
  job : ∀ job, (loadJob depth fs p).result = .ok job ↔
    List.Forall₂ (fun name run => (loadRun depth fs (p.child name)).result = .ok run) names job
  /-- The fault is that of the first run file, in order, that cannot be loaded. -/
  fails : ∀ fault, (loadJob depth fs p).result = .error fault ↔
    FirstFault (fun name => ∃ run, (loadRun depth fs (p.child name)).result = .ok run)
      (fun name => (loadRun depth fs (p.child name)).result = .error fault) names
  /-- What else lies in the directory, or anywhere, has no influence, nor has the order of the entries:
  neither on the outcome nor on the records. -/
  others : ∀ (fs' : FileSystem) (children' : List (Text × FileTree)),
    fs'.find? p = some (.dir children') → IsListing children' → fs'.mayRead p = true →
    IsAsked fs' p children' →
    (∀ name content, RunFile children' name content ↔ RunFile children name content) →
    (∀ name content, RunFile children name content →
      fs'.mayRead (p.child name) = fs.mayRead (p.child name)) →
    loadJob depth fs' p = loadJob depth fs p
  /-- A single run file makes the job that is loaded from its own path. -/
  single : ∀ name, names = [name] →
    ∀ job, (loadJob depth fs (p.child name)).result = .ok job ↔ (loadJob depth fs p).result = .ok job

/-! ### Names -/

theorem isRunName_iff {name : Text} : isRunName name = true ↔ NamesRun name := by
  unfold isRunName
  rw [List.isSuffixOf_iff_suffix]
  constructor
  · rintro ⟨stem, hstem⟩
    exact ⟨Text.ofList stem, Text.toList_injective (by simpa using hstem.symm)⟩
  · rintro ⟨stem, rfl⟩
    rw [Text.toList_append]
    exact List.suffix_append _ _

/-- Sorting leaves no choice between different names. -/
theorem eq_of_increasing {names names' : List Text} (h : names.Pairwise (· < ·))
    (h' : names'.Pairwise (· < ·)) (hmem : ∀ name, name ∈ names ↔ name ∈ names') : names = names' := by
  have hnodup : ∀ {names : List Text}, names.Pairwise (· < ·) → names.Nodup :=
    fun h => h.imp fun hlt => ne_of_lt hlt
  have hperm : names.Perm names' := (List.perm_ext_iff_of_nodup (hnodup h) (hnodup h')).mpr hmem
  exact hperm.eq_of_pairwise (fun a b _ _ hab hba => absurd hba (not_lt_of_gt hab)) h h'

theorem RunNames.unique {children children' : List (Text × FileTree)} {names names' : List Text}
    (h : RunNames children names) (h' : RunNames children' names')
    (hsame : ∀ name content, RunFile children' name content ↔ RunFile children name content) :
    names' = names := by
  refine eq_of_increasing h'.increasing h.increasing ?_
  intro name
  rw [h.mem_iff, h'.mem_iff]
  exact exists_congr (hsame name)

/-- The names of the run files are found by sorting. -/
theorem exists_runNames (p : Path) {children : List (Text × FileTree)}
    (hentries : IsListing children) :
    ∃ names, RunNames children names ∧ runFiles p (.dir children) = names.map p.child := by
  refine ⟨_, ⟨?_, ?_⟩, rfl⟩
  · -- The names of all entries are distinct, and so are those of some of them.
    have hfiles : ((FileTree.dir children).fileNames.filter isRunName).Nodup := by
      refine List.Nodup.sublist (List.filter_sublist.trans ?_) hentries.distinct
      exact List.filter_sublist.map Prod.fst
    have hsorted : (((FileTree.dir children).fileNames.filter isRunName).mergeSort
        fun a b => decide (a ≤ b)).Pairwise fun a b => decide (a ≤ b) = true := by
      apply List.pairwise_mergeSort
      · intro a b c hab hbc
        rw [decide_eq_true_iff] at *
        exact hab.trans hbc
      · intro a b
        rw [Bool.or_eq_true, decide_eq_true_iff, decide_eq_true_iff]
        exact le_total a b
    have hdistinct := (List.mergeSort_perm _ fun a b : Text => decide (a ≤ b)).nodup_iff.mpr hfiles
    exact (hsorted.and hdistinct).imp fun hab => lt_of_le_of_ne (of_decide_eq_true hab.1) hab.2
  · intro name
    rw [List.mem_mergeSort, List.mem_filter, mem_fileNames, isRunName_iff, and_comm, ← exists_and_left]
    rfl

/-! ### Files of a directory -/

variable {depth : Nat} {fs fs' : FileSystem} {p q : Path} {children children' : List (Text × FileTree)}
  {names : List Text}

/-- A run is read as what lies at its path says, if it may be read. -/
theorem readRun_congr (hholds : fs'.holds q = fs.holds q) (hfind : fs'.find? q = fs.find? q)
    (hread : fs'.mayRead q = fs.mayRead q) : readRun depth fs' q = readRun depth fs q := by
  have htext : fs.holds q = .ok true → fs'.readText q = fs.readText q := by
    intro hthere
    cases hmay : fs.mayRead q with
    | false =>
      rw [readText_of_not_mayRead hthere hmay,
        readText_of_not_mayRead (hholds.trans hthere) (hread.trans hmay)]
    | true =>
      by_cases hfile : ∃ content, fs.find? q = some (.file content)
      · obtain ⟨content, hcontent⟩ := hfile
        rw [readText_of_file hcontent hmay, readText_of_file (hfind.trans hcontent) (hread.trans hmay)]
      · have hnode : ∀ content, fs.find? q ≠ some (.file content) := not_exists.mp hfile
        rw [readText_of_no_file hthere hmay hnode, readText_of_no_file (hholds.trans hthere)
          (hread.trans hmay) fun content => hfind ▸ hnode content]
  unfold readRun
  rw [hholds]
  cases hthere : fs.holds q with
  | error fault => rfl
  | ok there =>
    cases there with
    | false => rfl
    | true => rw [htext hthere]

/-- A path is refused for its length, for what no path can have, or not at all. -/
theorem refusal?_cases (s : Text) : refusal? s = some .tooLong ∨
    (∃ m, refusal? s = some m ∧ m.isFault = false) ∨ refusal? s = none := by
  unfold refusal?
  split
  · exact .inr (.inl ⟨_, rfl, rfl⟩)
  · split
    · exact .inr (.inl ⟨_, rfl, rfl⟩)
    · split
      · exact .inl rfl
      · exact .inr (.inr rfl)

theorem holds_of_refusal? {m : Missing} (h : refusal? q.text = some m) (hm : m.isFault = false) :
    fs.holds q = .ok false := by
  unfold holds
  rw [resolve_of_refusal? h]
  exact if_neg (by rw [hm]; exact Bool.false_ne_true)

/-- What lies at the path of a run file that can be asked what it is: the file, or nothing. -/
theorem child_cases (hdir : fs.find? p = some (.dir children)) (hentries : IsListing children)
    (hasked : IsAsked fs p children) {name : Text} {content : ByteArray}
    (hfile : RunFile children name content) :
    (∃ m, refusal? (p.child name).text = some m ∧ m.isFault = false) ∨
      refusal? (p.child name).text = none ∧ fs.find? (p.child name) = some (.file content) := by
  obtain ⟨hrun, hmem⟩ := hfile
  rcases refusal?_cases (p.child name).text with htext | hrefused | htext
  · exact absurd (.tooLong hrun htext) (hasked _ hmem _)
  · exact .inl hrefused
  · refine .inr ⟨htext, ?_⟩
    have henter : fs.mayEnter p = true := by
      rw [← Bool.not_eq_false]
      intro hdenied
      exact hasked _ hmem _ (.denied hrun htext hdenied)
    obtain ⟨hdot, hdots⟩ := ne_dots_of_isRunName (isRunName_iff.mpr hrun)
    exact find?_child hdir (lookup_of_mem hentries.distinct hmem) (hentries.listed _ hmem) hdot hdots htext
      henter

/-- A run file is loaded alike wherever its directory lies at the path. -/
theorem loadRun_child_congr (hdir : fs.find? p = some (.dir children))
    (hdir' : fs'.find? p = some (.dir children')) (hentries : IsListing children)
    (hentries' : IsListing children') (hasked : IsAsked fs p children)
    (hasked' : IsAsked fs' p children') {name : Text} {content : ByteArray}
    (hfile : RunFile children name content) (hfile' : RunFile children' name content)
    (hread : fs'.mayRead (p.child name) = fs.mayRead (p.child name)) :
    loadRun depth fs' (p.child name) = loadRun depth fs (p.child name) := by
  have hsame : readRun depth fs' (p.child name) = readRun depth fs (p.child name) := by
    rcases child_cases hdir hentries hasked hfile with ⟨m, htext, hm⟩ | ⟨htext, hfind⟩
    · -- Nothing lies at a path that no path can be.
      rw [readRun_eq_noRun (holds_of_refusal? htext hm), readRun_eq_noRun (holds_of_refusal? htext hm)]
    · rcases child_cases hdir' hentries' hasked' hfile' with ⟨m, htext', -⟩ | ⟨-, hfind'⟩
      · cases htext.symm.trans htext'
      · exact readRun_congr ((holds_of_find? hfind').trans (holds_of_find? hfind).symm)
          (hfind'.trans hfind.symm) hread
  unfold loadRun
  rw [hsame]

theorem loadRuns_congr {files : List Path} (h : ∀ q ∈ files, loadRun depth fs' q = loadRun depth fs q) :
    loadRuns depth fs' files = loadRuns depth fs files := by
  induction files with
  | nil => rfl
  | cons q files ih =>
    obtain ⟨hq, hfiles⟩ := List.forall_mem_cons.mp h
    simp only [loadRuns, hq, ih hfiles]

/-! ### Directories -/

/-- An entry that is named as a run can be asked what it is, or one of the exceptions says why not. -/
theorem untold?_child (hdir : fs.find? p = some (.dir children)) (hentries : IsListing children)
    {e : Text × FileTree} (hmem : e ∈ children) (hrun : NamesRun e.1) (fault : FileFault) :
    fs.untold? (p.child e.1) = some fault ↔ Unasked fs p e fault := by
  rw [untold?_eq_some_iff]
  rcases refusal?_cases (p.child e.1).text with htext | ⟨m, htext, hm⟩ | htext
  · have hfault : fs.holds (p.child e.1) = .error (.tooLong (p.child e.1)) :=
      holds_eq_error_iff.mpr ⟨.tooLong, resolve_of_refusal? htext, rfl, rfl⟩
    rw [hfault]
    constructor
    · rintro ⟨⟩
      exact .tooLong hrun htext
    · intro h
      cases h with
      | tooLong => rfl
      | denied _ path => cases htext.symm.trans path
  · rw [holds_of_refusal? htext hm]
    refine iff_of_false nofun ?_
    intro h
    cases h with
    | tooLong _ path =>
      cases htext.symm.trans path
      cases hm
    | denied _ path => cases htext.symm.trans path
  · obtain ⟨hdot, hdots⟩ := ne_dots_of_isRunName (isRunName_iff.mpr hrun)
    obtain ⟨directory, hnames, hnode⟩ := find?_eq_some_iff.mp hdir
    have hlookup : (children.lookup e.1).isSome :=
      Option.isSome_of_eq_some (lookup_of_mem hentries.distinct hmem)
    have hresolve := resolve_child hnames hnode hlookup (hentries.listed _ hmem) hdot hdots htext
    rw [← mayEnter_of_resolve hnames] at hresolve
    cases henter : fs.mayEnter p with
    | true =>
      rw [if_pos henter] at hresolve
      rw [holds_eq_true_iff.mpr ⟨_, hresolve⟩]
      refine iff_of_false nofun ?_
      intro h
      cases h with
      | tooLong _ path => cases htext.symm.trans path
      | denied _ _ enter => cases henter.symm.trans enter
    | false =>
      rw [henter, if_neg Bool.false_ne_true] at hresolve
      have hfault : fs.holds (p.child e.1) = .error (.denied (p.child e.1)) :=
        holds_eq_error_iff.mpr ⟨.denied, hresolve, rfl, rfl⟩
      rw [hfault]
      constructor
      · rintro ⟨⟩
        exact .denied hrun htext henter
      · intro h
        cases h with
        | tooLong _ path => cases htext.symm.trans path
        | denied => rfl

theorem unasked?_of_isAsked (hdir : fs.find? p = some (.dir children))
    (hentries : IsListing children) {entries : List (Text × FileTree)}
    (hsubset : entries ⊆ children) (hasked : IsAsked fs p entries) :
    unasked? fs p (.dir entries) = none := by
  rw [unasked?_eq_none_iff]
  intro name node hmem hrun
  rw [Option.eq_none_iff_forall_ne_some]
  intro fault hfault
  have hunasked := (untold?_child hdir hentries (hsubset hmem) (isRunName_iff.mp hrun) fault).mp hfault
  exact hasked _ hmem fault hunasked

theorem unasked?_append (before after : List (Text × FileTree)) :
    unasked? fs p (.dir (before ++ after)) =
      (unasked? fs p (.dir before)).or (unasked? fs p (.dir after)) := by
  simp only [unasked?, FileTree.names, List.map_append, List.filter_append, List.findSome?_append]

/-- The first entry that cannot be asked what it is stops the loading, before any run is loaded. -/
theorem loadJob_of_unasked (hdir : fs.find? p = some (.dir children))
    (hentries : IsListing children) (hread : fs.mayRead p = true)
    {before after : List (Text × FileTree)} {e : Text × FileTree} {fault : FileFault}
    (heq : children = before ++ e :: after) (hbefore : IsAsked fs p before) (he : Unasked fs p e fault) :
    loadJob depth fs p = ⟨[], .error (.unreadable fault)⟩ := by
  have hrun : NamesRun e.1 := by
    cases he with
    | tooLong run => exact run
    | denied run => exact run
  have hmem : e ∈ children := heq ▸ List.mem_append_right before List.mem_cons_self
  have hfault := (untold?_child hdir hentries hmem hrun fault).mpr he
  have hfirst : unasked? fs p (.dir children) = some fault := by
    have hasked := unasked?_of_isAsked hdir hentries (heq ▸ List.subset_append_left before _) hbefore
    rw [heq, unasked?_append, hasked]
    simp [unasked?, FileTree.names, isRunName_iff.mpr hrun, hfault]
  unfold loadJob
  rw [jobFiles_of_unasked hdir hread hfirst]

/-- A directory that may not be listed makes a job without runs. -/
theorem loadJob_of_unlisted (hdir : fs.find? p = some (.dir children)) (hread : fs.mayRead p = false) :
    loadJob depth fs p = ⟨[noRunsRecord p, loadedJobRecord p []], .ok []⟩ := by
  unfold loadJob
  rw [jobFiles_of_unlisted hdir hread]
  rfl

/-- Without such an entry the run files are loaded one after the other. -/
theorem loadJob_result_of_names (depth : Nat) (hdir : fs.find? p = some (.dir children))
    (hentries : IsListing children) (hread : fs.mayRead p = true)
    (hasked : IsAsked fs p children) (hfiles : runFiles p (.dir children) = names.map p.child) :
    (loadJob depth fs p).result = names.mapM fun name => (loadRun depth fs (p.child name)).result := by
  have heach : (fun name => (loadRun depth fs (p.child name)).result) = readRun depth fs ∘ p.child := by
    funext name
    exact loadRun_result depth fs (p.child name)
  rw [loadJob_result, jobFiles_of_dir hdir hread (unasked?_of_isAsked hdir hentries (List.Subset.refl _) hasked),
    hfiles, heach]
  exact List.mapM_map

theorem loadJob_congr (hdir : fs.find? p = some (.dir children))
    (hdir' : fs'.find? p = some (.dir children')) (hentries : IsListing children)
    (hentries' : IsListing children') (hread : fs.mayRead p = true)
    (hread' : fs'.mayRead p = true) (hasked : IsAsked fs p children) (hasked' : IsAsked fs' p children')
    (hsame : ∀ name content, RunFile children' name content ↔ RunFile children name content)
    (hreads : ∀ name content, RunFile children name content →
      fs'.mayRead (p.child name) = fs.mayRead (p.child name)) :
    loadJob depth fs' p = loadJob depth fs p := by
  -- The same run files have the same names in the same order.
  obtain ⟨names, hnames, hfiles⟩ := exists_runNames p hentries
  obtain ⟨names', hnames', hfiles'⟩ := exists_runNames p hentries'
  obtain rfl := hnames.unique hnames' hsame
  have hruns : loadRuns depth fs' (names'.map p.child) = loadRuns depth fs (names'.map p.child) := by
    apply loadRuns_congr
    rw [List.forall_mem_map]
    intro name hname
    obtain ⟨content, hfile⟩ := (hnames.mem_iff name).mp hname
    exact loadRun_child_congr hdir hdir' hentries hentries' hasked hasked' hfile
      ((hsame name content).mpr hfile) (hreads name content hfile)
  unfold loadJob
  rw [jobFiles_of_dir hdir hread (unasked?_of_isAsked hdir hentries (List.Subset.refl _) hasked),
    jobFiles_of_dir hdir' hread' (unasked?_of_isAsked hdir' hentries' (List.Subset.refl _) hasked'),
    hfiles, hfiles']
  dsimp only
  rw [hruns]

/-- The path of a run file is that of a job with this run. -/
theorem loadJob_child_eq_ok_iff (hdir : fs.find? p = some (.dir children))
    (hentries : IsListing children) (hasked : IsAsked fs p children) {name : Text}
    {content : ByteArray} (hfile : RunFile children name content) (job : Job) :
    (loadJob depth fs (p.child name)).result = .ok job ↔
      ∃ run, (loadRun depth fs (p.child name)).result = .ok run ∧ job = [run] := by
  rw [loadRun_result]
  rcases child_cases hdir hentries hasked hfile with ⟨m, htext, hm⟩ | ⟨-, hfind⟩
  · -- Nothing is loaded from what cannot be a path, neither a run nor a job.
    have hmissing : fs.holds (p.child name) = .ok false := holds_of_refusal? htext hm
    rw [loadJob_result, jobFiles_of_missing hmissing, readRun_eq_noRun hmissing]
    exact iff_of_false nofun fun ⟨run, hread, _⟩ => nomatch hread
  · have hnode : ∀ children, fs.find? (p.child name) ≠ some (.dir children) := by
      intro children hchild
      cases hfind.symm.trans hchild
    rw [loadJob_of_no_dir (holds_of_find? hfind) hnode]
    cases readRun depth fs (p.child name) with
    | error fault => exact iff_of_false nofun fun ⟨run, hread, _⟩ => nomatch hread
    | ok run => simp [Except.map, eq_comm]

theorem directoryContract (hdir : fs.find? p = some (.dir children))
    (hentries : IsListing children) (hread : fs.mayRead p = true)
    (hasked : IsAsked fs p children) (hnames : RunNames children names)
    (hfiles : runFiles p (.dir children) = names.map p.child) :
    DirectoryContract depth fs p children names := by
  have hresult := loadJob_result_of_names depth hdir hentries hread hasked hfiles
  have hjob : ∀ job, (loadJob depth fs p).result = .ok job ↔
      List.Forall₂ (fun name run => (loadRun depth fs (p.child name)).result = .ok run) names job := by
    intro job
    rw [hresult]
    exact mapM_eq_ok (fun _ _ => Iff.rfl) names job
  exact {
    returns := by
      simp only [hjob, exists_forall₂_iff, hnames.mem_iff, forall_exists_index]
    job := hjob
    fails := by
      intro fault
      rw [hresult]
      exact mapM_eq_error (fun _ => Iff.rfl) (fun _ => Iff.rfl) names
    others := by
      intro fs' children' hdir' hentries' hread' hasked' hsame hreads
      exact loadJob_congr hdir hdir' hentries hentries' hread hread' hasked hasked' hsame hreads
    single := by
      rintro name rfl job
      obtain ⟨content, hfile⟩ := (hnames.mem_iff name).mp List.mem_cons_self
      rw [loadJob_child_eq_ok_iff hdir hentries hasked hfile, hjob, List.forall₂_cons_left_iff]
      simp only [List.forall₂_nil_left_iff]
      constructor
      · rintro ⟨run, hrun, rfl⟩
        exact ⟨run, [], hrun, rfl, rfl⟩
      · rintro ⟨run, _, hrun, rfl, rfl⟩
        exact ⟨run, hrun, rfl⟩ }

/-! ### Main statement -/

/-- **A directory is loaded as its run files are, in the order of their names**, if it may be listed and
all entries that are named as runs can be asked what they are.  Otherwise it passes for a directory without
run files, or the first of the entries that cannot be asked is the fault. -/
theorem directory_loaded_in_order (depth : Nat) (fs : FileSystem) (p : Path)
    (children : List (Text × FileTree)) (hdir : fs.find? p = some (.dir children))
    (hentries : IsListing children) :
    (fs.mayRead p = true → IsAsked fs p children →
      ∃ names, RunNames children names ∧ DirectoryContract depth fs p children names) ∧
    (fs.mayRead p = true → ∀ before e after fault, children = before ++ e :: after →
      IsAsked fs p before → Unasked fs p e fault →
        loadJob depth fs p = ⟨[], .error (.unreadable fault)⟩) ∧
    (fs.mayRead p = false →
      loadJob depth fs p = ⟨[noRunsRecord p, loadedJobRecord p []], .ok []⟩) := by
  refine ⟨?_, ?_, loadJob_of_unlisted hdir⟩
  · intro hread hasked
    obtain ⟨names, hnames, hfiles⟩ := exists_runNames p hentries
    exact ⟨names, hnames, directoryContract hdir hentries hread hasked hnames hfiles⟩
  · intro hread before e after fault heq hbefore he
    exact loadJob_of_unasked hdir hentries hread heq hbefore he

/-- The path of a directory with runs. -/
def jobPath : Path := ⟨0, ["job"]⟩

/-- Two run files, the second one first, between a file and a directory that are no runs. -/
def mixedChildren : List (Text × FileTree) :=
  [("notes", .file (Text.asciiFile ['?'])),
    ("b.json", .file (Text.asciiFile "\x7b\"T\": []\x7d".toList)), ("c.json", .empty),
    (".json", .file (Text.asciiFile "\x7b\x7d".toList))]

/-- The directory with these entries. -/
def mixedDirectory : FileSystem := ⟨.dir [("job", .dir mixedChildren)], [], .all⟩

theorem runNames_mixedChildren : RunNames mixedChildren [".json", "b.json"] where
  increasing := by decide
  mem_iff name := by
    have hnotes : ¬ NamesRun "notes" := by
      rw [← isRunName_iff]
      decide
    simp only [RunFile, mixedChildren, FileTree.empty, List.mem_cons, List.not_mem_nil, or_false,
      Prod.mk.injEq, FileTree.file.injEq, reduceCtorEq, and_false, false_or]
    constructor
    · rintro (rfl | rfl)
      · exact ⟨_, isRunName_iff.mp (by decide), .inr (.inr ⟨rfl, rfl⟩)⟩
      · exact ⟨_, isRunName_iff.mp (by decide), .inr (.inl ⟨rfl, rfl⟩)⟩
    · rintro ⟨content, hrun, ⟨rfl, -⟩ | ⟨rfl, -⟩ | ⟨rfl, -⟩⟩
      · exact absurd hrun hnotes
      · exact .inr rfl
      · exact .inl rfl

/-- The runs stand in the order of the names of their files. -/
theorem directory_loaded_in_order_mixedDirectory :
    (loadJob Json.usualDepth mixedDirectory jobPath).result = .ok [[], [("T", [])]] := by
  have hdir : mixedDirectory.find? jobPath = some (.dir mixedChildren) := by cbv
  have hentries : IsListing mixedChildren := ⟨by decide, by simp [mixedChildren]⟩
  have hlisted : mixedDirectory.mayRead jobPath = true := by cbv
  have hasked : IsAsked mixedDirectory jobPath mixedChildren := by
    have hshort : ∀ e ∈ mixedChildren, refusal? (jobPath.child e.1).text = none := by
      simp only [mixedChildren, List.forall_mem_cons, List.not_mem_nil, false_implies, implies_true,
        and_true]
      refine ⟨?_, ?_, ?_, ?_⟩ <;> cbv
    have henter : mixedDirectory.mayEnter jobPath = true := by cbv
    intro e he fault hunasked
    cases hunasked with
    | tooLong _ path => cases (hshort e he).symm.trans path
    | denied _ _ enter => cases henter.symm.trans enter
  have hread : ∀ name text j run, mixedDirectory.HoldsBytes (jobPath.child name) (Text.asciiFile text) →
      (text.all fun c => c.toNat < 0x80 && c ≠ '\r') = true →
      Json.parse Json.usualDepth text = .ok j → Run.decode j = .ok run →
      (loadRun Json.usualDepth mixedDirectory (jobPath.child name)).result = .ok run := by
    intro name text j run hfile hplain hparse hdecode
    rw [loadRun_result, readRun_eq_ok_iff]
    exact ⟨text, j, readText_of_asciiFile hfile hplain, hparse, hdecode⟩
  obtain ⟨hloaded, -⟩ :=
    directory_loaded_in_order Json.usualDepth mixedDirectory jobPath mixedChildren hdir hentries
  obtain ⟨names, hnames, hcontract⟩ := hloaded hlisted hasked
  obtain rfl := runNames_mixedChildren.unique hnames fun _ _ => Iff.rfl
  rw [hcontract.job]
  refine .cons ?_ (.cons ?_ .nil)
  · exact hread ".json" "\x7b\x7d".toList (.obj []) [] ⟨by cbv, by cbv⟩ (by decide) (by cbv) rfl
  · exact hread "b.json" "\x7b\"T\": []\x7d".toList (.obj [("T", .arr [])]) [("T", [])]
      ⟨by cbv, by cbv⟩ (by decide) (by cbv) rfl

/-! ### A directory that cannot be loaded -/

/-- The names of a path into a directory and back out of it. -/
def roundTrip : List Text := ["d", ".."]

/-- A path that goes to and fro between a directory and the one around it before it ends. -/
def windingPath (n : Nat) (names : List Text) : Path :=
  ⟨0, (List.replicate n roundTrip).flatten ++ names⟩

theorem mem_flatten_roundTrips {n : Nat} {part : Text}
    (h : part ∈ (List.replicate n roundTrip).flatten) : part = "d" ∨ part = ".." := by
  obtain ⟨round, hround, hpart⟩ := List.mem_flatten.mp h
  rw [(List.mem_replicate.mp hround).2] at hpart
  simpa [roundTrip] using hpart

theorem map_listed_roundTrips (n : Nat) :
    (List.replicate n roundTrip).flatten.map Text.listed = (List.replicate n roundTrip).flatten := by
  refine (List.map_congr_left fun part hpart => ?_).trans (List.map_id _)
  obtain rfl | rfl := mem_flatten_roundTrips hpart <;> exact Text.listed_ofString _

theorem isNormal_windingPath (n : Nat) {names : List Text}
    (h : (Path.mk 0 names).IsNormal) : (windingPath n names).IsNormal where
  slashes := Nat.zero_le 2
  parts part hpart := by
    rcases List.mem_append.mp hpart with hpart | hpart
    · obtain rfl | rfl := mem_flatten_roundTrips hpart <;> decide
    · exact h.parts part hpart
  divided part hpart := by
    rcases List.mem_append.mp hpart with hpart | hpart
    · obtain rfl | rfl := mem_flatten_roundTrips hpart <;> decide
    · exact h.divided part hpart

/-- Each time adds five characters. -/
theorem text_windingPath (n : Nat) {names : List Text} (hne : names ≠ [])
    (h : (Path.mk 0 names).IsNormal) : (windingPath n names).text =
      ⟨(List.replicate n ("d/../" : Text).toList).flatten⟩ ++ Text.intercalate "/" names := by
  apply Text.toList_injective
  rw [Path.toList_text (isNormal_windingPath n h) (List.append_ne_nil_of_right_ne_nil _ hne),
    Text.toList_append, Text.toList_intercalate]
  show [Path.slash].intercalate (((List.replicate n roundTrip).flatten ++ names).map _) = _
  induction n with
  | zero => rfl
  | succ n ih =>
    have hrest : ((List.replicate n roundTrip).flatten ++ names).map Text.toList ≠ [] := by
      simp [hne]
    simp only [List.replicate_succ, List.flatten_cons, List.append_assoc, ← ih]
    show [Path.slash].intercalate (("d" : Text).toList :: (".." : Text).toList ::
      ((List.replicate n roundTrip).flatten ++ names).map Text.toList) = _
    rw [List.intercalate_cons_of_ne_nil (List.cons_ne_nil _ _),
      List.intercalate_cons_of_ne_nil hrest]
    rfl

theorem length_nameBytes_rounds (n : Nat) :
    (Text.ofList (List.replicate n ("d/../" : Text).toList).flatten).nameBytes.length = 5 * n := by
  induction n with
  | zero => rfl
  | succ n ih =>
    have hround : ("d/../" : Text).nameBytes.length = 5 := by decide
    have hrounds : Text.ofList (List.replicate (n + 1) ("d/../" : Text).toList).flatten =
        "d/../" ++ Text.ofList (List.replicate n ("d/../" : Text).toList).flatten := rfl
    rw [hrounds, Text.nameBytes_append, List.length_append, ih, hround]
    omega

/-- A path is not refused if it is short enough, and each half in it stands for a byte. -/
theorem refusal?_eq_of_points {t : Text} (hhalf : ∀ n, .half n ∈ t.toList → Text.isNameByte n = true)
    (hnull : .char '\x00' ∉ t.toList) :
    refusal? t = if maxPathLength < t.nameBytes.length then some .tooLong else none := by
  have hfault : t.nameFault? = none := (Text.encodeFaultFrom?_eq_none_iff 0).mpr hhalf
  unfold refusal?
  rw [hfault]
  dsimp only
  rw [if_neg (by simpa using hnull)]

theorem refusal?_windingPath (n : Nat) {names : List Text} (hne : names ≠ [])
    (h : (Path.mk 0 names).IsNormal)
    (hplain : ∀ c ∈ (Text.intercalate "/" names).toList, c.char?.any (· ≠ '\x00') = true) :
    refusal? (windingPath n names).text =
      if maxPathLength < 5 * n + (Text.intercalate "/" names).nameBytes.length then some .tooLong
      else none := by
  have hround : ∀ c ∈ ("d/../" : Text).toList, c.char?.any (· ≠ '\x00') = true := by decide
  have hpoints : ∀ c ∈ (windingPath n names).text.toList, c.char?.any (· ≠ '\x00') = true := by
    intro c hc
    rw [text_windingPath n hne h, Text.toList_append, List.mem_append] at hc
    rcases hc with hc | hc
    · obtain ⟨round, hrounds, hc⟩ := List.mem_flatten.mp hc
      rw [(List.mem_replicate.mp hrounds).2] at hc
      exact hround c hc
    · exact hplain c hc
  rw [refusal?_eq_of_points (fun m hm => nomatch hpoints _ hm)
    (fun hnull => absurd (hpoints _ hnull) (by decide)), text_windingPath n hne h, Text.nameBytes_append,
    List.length_append, length_nameBytes_rounds]

/-- The names that go to and fro lead nowhere else. -/
theorem resolveFrom_rounds {here : List Text} {children inner : List (Text × FileTree)}
    (hall : fs.allowed = .all) (hhere : fs.at? here.reverse = some (.dir children))
    (hinner : children.lookup ("d" : Text) = some (.dir inner)) (n : Nat) (parts : List Text) :
    fs.resolveFrom here ((List.replicate n roundTrip).flatten ++ parts) = fs.resolveFrom here parts := by
  have hdown : fs.at? (("d" : Text) :: here).reverse = some (.dir inner) := by
    unfold at? at hhere ⊢
    rw [List.reverse_cons, FileTree.at?_append, hhere]
    simp only [Option.bind_some, FileTree.at?, FileTree.child?, hinner]
  have hmay : ∀ names, fs.allowed.enter names = true := fun names => by rw [hall]; rfl
  induction n with
  | zero => rfl
  | succ n ih =>
    rw [List.replicate_succ, List.flatten_cons, List.append_assoc]
    show fs.resolveFrom here ("d" :: ".." :: ((List.replicate n roundTrip).flatten ++ parts)) = _
    -- One step goes into the directory `d`, and the next one back.
    rw [resolveFrom, hhere]
    dsimp only
    rw [hmay, Bool.not_true, if_neg Bool.false_ne_true, if_neg (by decide), if_neg (by decide), hinner,
      Option.isSome_some, if_pos rfl, resolveFrom, hdown]
    dsimp only
    rw [hmay, Bool.not_true, if_neg Bool.false_ne_true, if_neg (by decide), if_pos rfl, List.tail_cons, ih]

/-- A directory without run files, in which a directory is named as a run. -/
def runlessChildren : List (Text × FileTree) := [("x.json", .dir [])]

/-- A file system with this directory. -/
def runlessSystem : FileSystem := ⟨.dir [("d", .dir runlessChildren)], [], .all⟩

/-- There is no run file in the directory, and it cannot be loaded, since the directory in it cannot be
asked whether it is a file. -/
theorem loading_stopped_by_directory :
    runlessSystem.find? (windingPath 818 ["d"]) = some (.dir runlessChildren) ∧
    (∀ name content, ¬ RunFile runlessChildren name content) ∧
    (loadJob Json.usualDepth runlessSystem (windingPath 818 ["d"])).result =
      .error (.unreadable (.tooLong (windingPath 818 ["d", "x.json"]))) := by
  have hresolve : runlessSystem.resolve (windingPath 818 ["d"]) = .ok ["d"] := by
    have hnormal : (Path.mk 0 ["d"]).IsNormal := ⟨by decide, by decide, by decide⟩
    rw [resolve_eq_ok_iff, refusal?_windingPath 818 (List.cons_ne_nil _ _) hnormal (by decide)]
    refine ⟨by decide, ?_⟩
    rw [Path.steps_of_concat (show (windingPath 818 ["d"]).parts = _ ++ [("d" : Text)] from rfl), map_listed_roundTrips,
      Text.listed_ofString]
    show (runlessSystem.resolveFrom [] _).map List.reverse = _
    rw [resolveFrom_rounds rfl rfl rfl]
    rfl
  have hdir : runlessSystem.find? (windingPath 818 ["d"]) = some (.dir runlessChildren) := by
    unfold find?
    rw [hresolve]
    rfl
  have hread : runlessSystem.mayRead (windingPath 818 ["d"]) = true := by
    rw [mayRead_of_resolve hresolve]
    rfl
  have hchild : (windingPath 818 ["d"]).child "x.json" = windingPath 818 ["d", "x.json"] := by
    rw [Path.child, windingPath, List.append_assoc]
    rfl
  have hpath : Unasked runlessSystem (windingPath 818 ["d"]) ("x.json", .dir [])
      (.tooLong ((windingPath 818 ["d"]).child "x.json")) := by
    have hnormal : (Path.mk 0 ["d", "x.json"]).IsNormal := ⟨by decide, by decide, by decide⟩
    refine .tooLong (isRunName_iff.mp (by decide)) ?_
    rw [hchild, refusal?_windingPath 818 (List.cons_ne_nil _ _) hnormal (by decide)]
    decide
  refine ⟨hdir, ?_, ?_⟩
  · rintro name content ⟨-, hmem⟩
    cases List.mem_singleton.mp hmem
  · have hentries : IsListing runlessChildren := ⟨by decide, by simp [runlessChildren]⟩
    have heq : runlessChildren = [] ++ (("x.json" : Text), FileTree.dir []) :: [] := rfl
    rw [loadJob_of_unasked hdir hentries hread heq nofun hpath, ← hchild]

end FileSystem

end BenchCompare
