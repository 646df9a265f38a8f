import BenchCompare.Proofs.File.Lookup

/-! # What writing a file changes

  A file is written where one lies already, or in a directory that has nothing
  under its name.  There the text is found afterwards, under the same path, and
  all other files are as they were.

  * `contentAt?`: what lies at names, without what a directory holds.
  * `ChangesOnly P before after`: at the names in `P` files may have been made or
    written, and everything else is as it was.

  * `Writing fs p text after fault?`: what becomes of a text that is to be written.

  Main statements: `writeText_spec` for a text that takes the place of a file, and
  `appendText_spec` for one that is written at its end.
-/

namespace BenchCompare

namespace FileTree

/-! ### Trees -/

/-- The bytes of a file; a directory has none. -/
def content? : FileTree → Option ByteArray
  | file content => some content
  | dir _ => none

/-- What lies at names: nothing, a directory, or a file with its bytes. -/
def contentAt? (t : FileTree) (names : List Text) : Option (Option ByteArray) :=
  (t.at? names).map content?

/-- At these names a file can be written: one is there, or the directory that will hold it. -/
inductive TakesFile : FileTree → List Text → Prop
  | here (content : ByteArray) : TakesFile (.file content) []
  | new {children : List (Text × FileTree)} {name : Text} (free : children.lookup name = none) :
      TakesFile (.dir children) [name]
  | child {children : List (Text × FileTree)} {name : Text} {c : FileTree}
      {names : List Text} (found : children.lookup name = some c) (inside : TakesFile c names) :
      TakesFile (.dir children) (name :: names)

@[simp] theorem at?_nil (t : FileTree) : t.at? [] = some t := rfl

@[simp] theorem at?_file_cons (content : ByteArray) (name : Text) (names : List Text) :
    (file content).at? (name :: names) = none := rfl

theorem at?_dir_cons (children : List (Text × FileTree)) (name : Text) (names : List Text) :
    (dir children).at? (name :: names) = (children.lookup name).bind (·.at? names) := by
  simp only [at?, child?]
  cases children.lookup name <;> rfl

theorem lookup_setChild (name name' : Text) (node : FileTree)
    (children : List (Text × FileTree)) :
    (setChild name node children).lookup name' =
      if name' = name then some node else children.lookup name' := by
  induction children with
  | nil =>
    by_cases h : name' = name
    · simp [setChild, h]
    · simp [setChild, List.lookup_cons, h, beq_false_of_ne h]
  | cons e children ih =>
    obtain ⟨n, c⟩ := e
    by_cases hn : n = name
    · subst hn
      by_cases h : name' = n
      · simp [setChild, h]
      · simp [setChild, List.lookup_cons, h, beq_false_of_ne h]
    · by_cases h : name' = n
      · subst h
        simp [setChild, hn]
      · simp [setChild, hn, List.lookup_cons, beq_false_of_ne h, ih]

theorem put_nil (node t : FileTree) : put node [] t = node := by
  unfold put
  rfl

theorem put_cons (node : FileTree) (name : Text) (names : List Text)
    (children : List (Text × FileTree)) :
    put node (name :: names) (dir children) =
      dir (setChild name (put node names ((children.lookup name).getD empty)) children) := by
  rw [put]

/-- Reading back what was written. -/
theorem at?_put_self {t : FileTree} {names : List Text} (h : t.TakesFile names)
    (node : FileTree) : (put node names t).at? names = some node := by
  induction h with
  | here content => rw [put_nil, at?_nil]
  | new free => rw [put_cons, at?_dir_cons, lookup_setChild, if_pos rfl, put_nil]; rfl
  | child found inside ih =>
    rw [put_cons, at?_dir_cons, lookup_setChild, if_pos rfl, found]
    exact ih

/-- A file that is written leaves everything else alone. -/
theorem contentAt?_put_of_ne {t : FileTree} {names : List Text} (h : t.TakesFile names)
    (content : ByteArray) {names' : List Text} (hne : names' ≠ names) :
    (put (file content) names t).contentAt? names' = t.contentAt? names' := by
  unfold contentAt?
  induction h generalizing names' with
  | here old =>
    cases names' with
    | nil => exact absurd rfl hne
    | cons name' names' => rw [put_nil, at?_file_cons, at?_file_cons]
  | @new children name free =>
    cases names' with
    | nil => rw [put_cons]; rfl
    | cons name' names' =>
      rw [put_cons, at?_dir_cons, at?_dir_cons, lookup_setChild]
      split
      · next hname =>
        subst hname
        -- Nothing lay under the name, and nothing lies behind it now.
        rw [free, put_nil]
        cases names' with
        | nil => exact absurd rfl hne
        | cons name' names' => rfl
      · rfl
  | @child children name c names found inside ih =>
    cases names' with
    | nil => rw [put_cons]; rfl
    | cons name' names' =>
      rw [put_cons, at?_dir_cons, at?_dir_cons, lookup_setChild]
      split
      · next hname =>
        subst hname
        have hne' : names' ≠ names := by
          rintro rfl
          exact hne rfl
        rw [found]
        exact ih hne'
      · rfl

theorem takesFile_of_file {t : FileTree} {names : List Text} {content : ByteArray}
    (h : t.at? names = some (file content)) : t.TakesFile names := by
  induction names generalizing t with
  | nil =>
    cases h
    exact .here content
  | cons name names ih =>
    cases t with
    | file old => cases h
    | dir children =>
      rw [at?_dir_cons, Option.bind_eq_some_iff] at h
      obtain ⟨c, hfound, hc⟩ := h
      exact .child hfound (ih hc)

theorem takesFile_of_dir {t : FileTree} {names : List Text} {children : List (Text × FileTree)}
    (h : t.at? names = some (dir children)) {name : Text} (hfree : children.lookup name = none) :
    t.TakesFile (names ++ [name]) := by
  induction names generalizing t with
  | nil =>
    cases h
    exact .new hfree
  | cons name' names ih =>
    cases t with
    | file old => cases h
    | dir siblings =>
      rw [at?_dir_cons, Option.bind_eq_some_iff] at h
      obtain ⟨c, hfound, hc⟩ := h
      exact .child hfound (ih hc)

theorem TakesFile.contentAt?_ne_dir {t : FileTree} {names : List Text} (h : t.TakesFile names) :
    t.contentAt? names ≠ some none := by
  unfold contentAt?
  induction h with
  | here content => nofun
  | new free => rw [at?_dir_cons, free]; nofun
  | child found inside ih =>
    rw [at?_dir_cons, found]
    exact ih

theorem contentAt?_eq_dir_iff {t : FileTree} {names : List Text} :
    t.contentAt? names = some none ↔ ∃ children, t.at? names = some (dir children) := by
  unfold contentAt?
  constructor
  · intro h
    obtain ⟨node, hnode, hcontent⟩ := Option.map_eq_some_iff.mp h
    cases node with
    | file content => cases hcontent
    | dir children => exact ⟨children, hnode⟩
  · rintro ⟨children, h⟩
    rw [h]
    rfl

theorem isSome_contentAt? {t : FileTree} {names : List Text} :
    (t.contentAt? names).isSome = (t.at? names).isSome := Option.isSome_map

theorem isSome_contentAt?_concat {t : FileTree} {names : List Text}
    {children : List (Text × FileTree)} (h : t.at? names = some (dir children)) (name : Text) :
    (t.contentAt? (names ++ [name])).isSome = (children.lookup name).isSome := by
  rw [isSome_contentAt?, at?_append, h, Option.bind_some, at?_dir_cons]
  cases children.lookup name <;> rfl

end FileTree

/-! ### File systems -/

namespace FileSystem

/-- What lies at names: nothing, a directory, or a file with its bytes. -/
def contentAt? (fs : FileSystem) (names : List Text) : Option (Option ByteArray) :=
  fs.root.contentAt? names

/-- Files may have been made or written at the names in `P`; everything else is as it was. -/
structure ChangesOnly (P : List Text → Prop) (before after : FileSystem) : Prop where
  /-- Work goes on where it did. -/
  here : after.here = before.here
  /-- What may be done stays the same. -/
  allowed : after.allowed = before.allowed
  /-- At other names there is what was there. -/
  others : ∀ names, ¬ P names → after.contentAt? names = before.contentAt? names
  /-- A directory stays one. -/
  directories : ∀ names, before.contentAt? names = some none → after.contentAt? names = some none
  /-- Nothing disappears. -/
  kept : ∀ names, (before.contentAt? names).isSome → (after.contentAt? names).isSome

namespace ChangesOnly

variable {P Q : List Text → Prop} {fs fs' fs'' : FileSystem}

theorem refl (P : List Text → Prop) (fs : FileSystem) : ChangesOnly P fs fs :=
  ⟨rfl, rfl, fun _ _ => rfl, fun _ h => h, fun _ h => h⟩

theorem trans (h : ChangesOnly P fs fs') (h' : ChangesOnly P fs' fs'') : ChangesOnly P fs fs'' where
  here := h'.here.trans h.here
  allowed := h'.allowed.trans h.allowed
  others names hnames := (h'.others names hnames).trans (h.others names hnames)
  directories names hnames := h'.directories names (h.directories names hnames)
  kept names hnames := h'.kept names (h.kept names hnames)

theorem mono (h : ChangesOnly P fs fs') (hPQ : ∀ names, P names → Q names) :
    ChangesOnly Q fs fs' where
  here := h.here
  allowed := h.allowed
  others names hnames := h.others names fun hP => hnames (hPQ names hP)
  directories := h.directories
  kept := h.kept

theorem isSome_at? (h : ChangesOnly P fs fs') {names : List Text} (hnames : (fs.at? names).isSome) :
    (fs'.at? names).isSome := by
  have hkept := h.kept names
  unfold contentAt? at hkept
  rw [FileTree.isSome_contentAt?, FileTree.isSome_contentAt?] at hkept
  exact hkept hnames

end ChangesOnly

theorem changesOnly_put {fs : FileSystem} {names : List Text} (h : fs.root.TakesFile names)
    (content : ByteArray) : ChangesOnly (· = names) fs (fs.put (.file content) names) where
  here := rfl
  allowed := rfl
  others _ hne := FileTree.contentAt?_put_of_ne h content hne
  directories names' hdir := by
    have hne : names' ≠ names := by
      rintro rfl
      exact h.contentAt?_ne_dir hdir
    exact (FileTree.contentAt?_put_of_ne h content hne).trans hdir
  kept names' hsome := by
    by_cases hne : names' = names
    · subst hne
      show ((FileTree.put (.file content) names' fs.root).contentAt? names').isSome
      rw [FileTree.isSome_contentAt?, FileTree.at?_put_self h]
      rfl
    · exact (congrArg Option.isSome (FileTree.contentAt?_put_of_ne h content hne)).trans hsome

/-! ### Resolving after a change -/

section

variable {P : List Text → Prop} {fs fs' : FileSystem} {p : Path}

/-- What was found is found again, since directories lead where they did. -/
theorem resolveFrom_mono (h : ChangesOnly P fs fs') {here parts names : List Text}
    (hresolve : fs.resolveFrom here parts = .ok names) : fs'.resolveFrom here parts = .ok names := by
  induction parts generalizing here with
  | nil => exact hresolve
  | cons part parts ih =>
    rw [resolveFrom.eq_def] at hresolve ⊢
    dsimp only at hresolve ⊢
    split at hresolve
    · next children hdir =>
      have hentry : fs'.contentAt? here.reverse = some none :=
        h.directories _ (FileTree.contentAt?_eq_dir_iff.mpr ⟨children, hdir⟩)
      obtain ⟨children', hdir'⟩ := FileTree.contentAt?_eq_dir_iff.mp hentry
      rw [show fs'.at? here.reverse = _ from hdir', h.allowed]
      dsimp only
      split at hresolve
      · cases hresolve
      · next henter =>
        rw [if_neg henter]
        split at hresolve
        · next hdot =>
          rw [if_pos hdot]
          exact ih hresolve
        · next hdot =>
          rw [if_neg hdot]
          split at hresolve
          · next hdots =>
            rw [if_pos hdots]
            exact ih hresolve
          · next hdots =>
            rw [if_neg hdots]
            split at hresolve
            · next hchild =>
              rw [← FileTree.isSome_contentAt?_concat hdir] at hchild
              have hchild' := h.kept _ hchild
              unfold contentAt? at hchild'
              rw [FileTree.isSome_contentAt?_concat hdir'] at hchild'
              rw [if_pos hchild']
              exact ih hresolve
            · cases hresolve
    · cases hresolve
    · cases hresolve

theorem resolveParts_mono (h : ChangesOnly P fs fs') {absolute : Bool} {parts names : List Text}
    (hresolve : fs.resolveParts absolute parts = .ok names) :
    fs'.resolveParts absolute parts = .ok names := by
  have hbase : fs'.base absolute = fs.base absolute := by
    unfold base
    rw [h.here]
  obtain ⟨reversed, hfrom, rfl⟩ := resolveParts_eq_ok_iff.mp hresolve
  rw [resolveParts_eq_ok_iff, hbase]
  exact ⟨reversed, resolveFrom_mono h hfrom, rfl⟩

theorem resolve_mono (h : ChangesOnly P fs fs') {names : List Text}
    (hresolve : fs.resolve p = .ok names) : fs'.resolve p = .ok names := by
  rw [resolve_eq_ok_iff] at hresolve ⊢
  exact ⟨hresolve.1, resolveParts_mono h hresolve.2⟩

theorem resolveParts_append (fs : FileSystem) (absolute : Bool) (parts parts' : List Text) :
    fs.resolveParts absolute (parts ++ parts') = (fs.resolveParts absolute parts).bind
      fun names => (fs.resolveFrom names.reverse parts').map List.reverse := by
  unfold resolveParts
  rw [resolveFrom_append]
  cases fs.resolveFrom (fs.base absolute).reverse parts with
  | error m => rfl
  | ok reversed =>
    show _ = (fs.resolveFrom reversed.reverse.reverse parts').map List.reverse
    rw [List.reverse_reverse]
    rfl

theorem resolveFrom_dir_singleton {names : List Text} {children : List (Text × FileTree)}
    (hdir : fs.at? names = some (.dir children)) (henter : fs.allowed.enter names = true) {part : Text}
    (hdot : part ≠ ".") (hdots : part ≠ "..") :
    fs.resolveFrom names.reverse [part] =
      if (children.lookup part).isSome then .ok (part :: names.reverse)
      else .error (if maxNameLength < part.nameBytes.length then .tooLong else .notFound) := by
  rw [resolveFrom, List.reverse_reverse, hdir]
  dsimp only
  rw [henter, Bool.not_true, if_neg Bool.false_ne_true, if_neg hdot, if_neg hdots]
  rfl

/-! ### The place of a file -/

/-- A file has its place at a path: it is there, or it is missing in a directory that is there. -/
inductive HasPlace (fs : FileSystem) (p : Path) : List Text → Prop
  | there {names : List Text} (found : fs.resolve p = .ok names)
      (node : ∀ children, fs.at? names ≠ some (.dir children)) : HasPlace fs p names
  | missing {steps names : List Text} {name : Text} {children : List (Text × FileTree)}
      (shape : p.steps = steps ++ [name]) (dot : name ≠ ".") (dots : name ≠ "..")
      (text : refusal? p.text = none)
      (directory : fs.resolveParts (p.slashes ≠ 0) steps = .ok names)
      (node : fs.at? names = some (.dir children)) (enter : fs.allowed.enter names = true)
      (free : children.lookup name = none) : HasPlace fs p (names ++ [name])

theorem isDir_any_iff {node? : Option FileTree} :
    node?.any FileTree.isDir = true ↔ ∃ children, node? = some (.dir children) := by
  cases node? with
  | none => simp
  | some node => cases node <;> simp [FileTree.isDir]

theorem refusal?_of_resolve_notFound (h : fs.resolve p = .error .notFound) :
    refusal? p.text = none ∧ fs.resolveParts (p.slashes ≠ 0) p.steps = .error .notFound := by
  unfold resolve at h
  split at h
  · next m hm =>
    cases h
    unfold refusal? at hm
    split at hm
    · cases hm
    · split at hm
      · cases hm
      · split at hm <;> cases hm
  · next hm => exact ⟨hm, h⟩

/-- A part that is missing in a directory that is there is a name, and nothing lies under it. -/
theorem missing_in_directory {parts names : List Text} {name : Text} {absolute : Bool}
    {children : List (Text × FileTree)}
    (hparts : fs.resolveParts absolute parts = .ok names) (hdir : fs.at? names = some (.dir children))
    (hmissing : fs.resolveParts absolute (parts ++ [name]) = .error .notFound) :
    name ≠ "." ∧ name ≠ ".." ∧ fs.allowed.enter names = true ∧ children.lookup name = none := by
  have hstep : (fs.resolveFrom names.reverse [name]).map List.reverse = .error .notFound := by
    rw [resolveParts_append, hparts] at hmissing
    exact hmissing
  have henter : fs.allowed.enter names = true := by
    rw [← Bool.not_eq_false]
    intro hdenied
    simp [resolveFrom, hdir, hdenied, Except.map] at hstep
  have hdot : name ≠ "." := by
    rintro rfl
    simp [resolveFrom, hdir, henter, Except.map] at hstep
  have hdots : name ≠ ".." := by
    rintro rfl
    simp [resolveFrom, hdir, henter, Except.map] at hstep
  refine ⟨hdot, hdots, henter, ?_⟩
  rw [resolveFrom_dir_singleton hdir henter hdot hdots] at hstep
  split at hstep
  · cases hstep
  · next hlookup => exact Option.not_isSome_iff_eq_none.mp hlookup

theorem hasPlace_of_place {names : List Text} (h : fs.place p = .ok names) : fs.HasPlace p names := by
  unfold place at h
  split at h
  · next names' hresolve =>
    split at h
    · cases h
    · next hnode =>
      cases h
      rw [isDir_any_iff] at hnode
      exact .there hresolve (not_exists.mp hnode)
  · next hresolve =>
    split at h
    · next names' name hdirectory hlast =>
      split at h
      · next hnode =>
        cases h
        obtain ⟨children, hnode⟩ := isDir_any_iff.mp hnode
        obtain ⟨htext, hmissing⟩ := refusal?_of_resolve_notFound hresolve
        obtain ⟨-, hsteps⟩ := resolve_eq_ok_iff.mp hdirectory
        have hparts := resolveParts_of_steps hsteps
        obtain ⟨parts, hlist⟩ := List.getLast?_eq_some_iff.mp hlast
        have hshape := Path.steps_of_concat hlist
        rw [hshape] at hmissing
        dsimp only at hparts
        rw [hlist, List.dropLast_concat] at hparts
        obtain ⟨hdot, hdots, henter, hfree⟩ := missing_in_directory hparts hnode hmissing
        exact .missing hshape hdot hdots htext hparts hnode henter hfree
      · cases h
    · cases h
  · cases h

/-- The place of something that is found is where it is found. -/
theorem eq_of_place_of_resolve {names names' : List Text} (hplace : fs.place p = .ok names)
    (hresolve : fs.resolve p = .ok names') : names = names' := by
  unfold place at hplace
  rw [hresolve] at hplace
  dsimp only at hplace
  split at hplace
  · cases hplace
  · exact (Except.ok.inj hplace).symm

theorem HasPlace.takesFile (hhere : (fs.at? (fs.base (p.slashes ≠ 0))).isSome) {names : List Text}
    (h : fs.HasPlace p names) : fs.root.TakesFile names := by
  cases h with
  | there found node =>
    obtain ⟨-, hsteps⟩ := resolve_eq_ok_iff.mp found
    obtain ⟨reversed, hfrom, rfl⟩ := resolveParts_eq_ok_iff.mp hsteps
    have hsome := isSome_at?_of_resolveFrom (by rw [List.reverse_reverse]; exact hhere) hfrom
    obtain ⟨c, hc⟩ := Option.isSome_iff_exists.mp hsome
    cases c with
    | file content => exact FileTree.takesFile_of_file hc
    | dir children => exact absurd hc (node children)
  | missing _ _ _ _ _ node _ free => exact FileTree.takesFile_of_dir node free

/-- Once a file is at its place, its path leads there. -/
theorem HasPlace.resolve (h : ChangesOnly P fs fs') {names : List Text}
    (hplace : fs.HasPlace p names) (hthere : (fs'.contentAt? names).isSome) :
    fs'.resolve p = .ok names := by
  cases hplace with
  | there found node => exact resolve_mono h found
  | @missing steps names name children shape dot dots text directory node enter free =>
    rw [resolve_eq_ok_iff]
    refine ⟨text, ?_⟩
    have hentry : fs'.contentAt? names = some none :=
      h.directories _ (FileTree.contentAt?_eq_dir_iff.mpr ⟨children, node⟩)
    obtain ⟨children', hdir'⟩ := FileTree.contentAt?_eq_dir_iff.mp hentry
    have hchild : (children'.lookup name).isSome := by
      rw [← FileTree.isSome_contentAt?_concat hdir']
      exact hthere
    have henter : fs'.allowed.enter names = true := by rw [h.allowed, enter]
    rw [shape, resolveParts_append, resolveParts_mono h directory]
    show (fs'.resolveFrom names.reverse [name]).map List.reverse = .ok (names ++ [name])
    rw [resolveFrom_dir_singleton hdir' henter dot dots, if_pos hchild]
    show Except.ok (name :: names.reverse).reverse = _
    rw [List.reverse_cons, List.reverse_reverse]

end

/-! ### Writing -/

section

variable {fs fs' : FileSystem} {p : Path}

theorem target_eq_ok_iff {names : List Text} :
    fs.target p = .ok names ↔ fs.place p = .ok names ∧ fs.mayWrite names = true := by
  unfold target
  cases fs.place p with
  | error fault => exact iff_of_false nofun fun h => nomatch h.1
  | ok names' =>
    show (if fs.mayWrite names' = true then Except.ok names' else .error (FileFault.denied p)) = _ ↔ _
    split
    · next hwrite =>
      constructor
      · rintro ⟨⟩
        exact ⟨rfl, hwrite⟩
      · rintro ⟨⟨⟩, -⟩
        rfl
    · next hwrite =>
      refine iff_of_false nofun ?_
      rintro ⟨⟨⟩, h⟩
      exact hwrite h

/-- A file that is put at the place of its path is found there, and nothing else is changed. -/
theorem put_spec (hhere : (fs.at? (fs.base (p.slashes ≠ 0))).isSome) {names : List Text}
    (hplace : fs.place p = .ok names) (content : ByteArray) :
    ChangesOnly (· = names) fs (fs.put (.file content) names) ∧
      (fs.put (.file content) names).resolve p = .ok names ∧
      (fs.put (.file content) names).find? p = some (.file content) := by
  have hplace := hasPlace_of_place hplace
  have htakes := hplace.takesFile hhere
  have hchange := changesOnly_put htakes content
  have hself : (fs.put (.file content) names).at? names = some (.file content) :=
    FileTree.at?_put_self htakes _
  have hthere : ((fs.put (.file content) names).contentAt? names).isSome := by
    unfold contentAt?
    rw [FileTree.isSome_contentAt?]
    exact Option.isSome_of_eq_some hself
  have hresolve := hplace.resolve hchange hthere
  refine ⟨hchange, hresolve, ?_⟩
  unfold find?
  rw [hresolve]
  exact hself

/-- What becomes of a text that is to be written at a path. -/
inductive Writing (fs : FileSystem) (p : Path) (text : Text) : FileSystem → Option FileFault → Prop
  /-- There is no place for it. -/
  | refused {fault : FileFault} (target : fs.target p = .error fault) : Writing fs p text fs (some fault)
  /-- It takes the place of what was there. -/
  | written {names : List Text} {s : String} {fs' : FileSystem} (target : fs.target p = .ok names)
      (encoded : text = s) (change : ChangesOnly (· = names) fs fs') (found : fs'.resolve p = .ok names)
      (file : fs'.find? p = some (.file s.toUTF8)) : Writing fs p text fs' none
  /-- It cannot be encoded, and an empty file is left. -/
  | emptied {names : List Text} {fault : Text.EncodeFault} {fs' : FileSystem}
      (target : fs.target p = .ok names) (halved : text.encode = .error fault)
      (change : ChangesOnly (· = names) fs fs') (found : fs'.resolve p = .ok names)
      (file : fs'.find? p = some (.file .empty)) : Writing fs p text fs' (some (.unencodable fault))

/-- A text that was written is found at its path, and nothing else was changed. -/
theorem writeText_spec (hhere : (fs.at? (fs.base (p.slashes ≠ 0))).isSome) (text : Text) :
    Writing fs p text (fs.writeText p text).1 (fs.writeText p text).2 := by
  unfold writeText
  cases htarget : fs.target p with
  | error fault => exact .refused htarget
  | ok names =>
    have hspec := put_spec hhere (target_eq_ok_iff.mp htarget).1
    cases htext : text.encode with
    | ok s =>
      obtain ⟨hchange, hfound, hfile⟩ := hspec s.toUTF8
      exact .written htarget (Text.encode_eq_ok_iff.mp htext) hchange hfound hfile
    | error fault =>
      obtain ⟨hchange, hfound, hfile⟩ := hspec .empty
      exact .emptied htarget htext hchange hfound hfile

/-- A text is not written if its file cannot be opened, and also if it cannot be encoded. -/
theorem writeText_eq_fault_iff (text : Text) {fault : FileFault} :
    fs.writeText p text = (fs', some fault) ↔
      (fs.target p = .error fault ∧ fs' = fs) ∨
        ∃ names halved, fs.target p = .ok names ∧ text.encode = .error halved ∧
          fault = .unencodable halved ∧ fs' = fs.put (.file .empty) names := by
  unfold writeText
  cases fs.target p with
  | error fault' => grind
  | ok names =>
    cases text.encode with
    | ok s => simp
    | error halved => grind

/-- The file at whose end a text was written is found at its path, and nothing else was changed. -/
theorem appendText_spec (hhere : (fs.at? (fs.base (p.slashes ≠ 0))).isSome) {text : String}
    (h : fs.appendText p text = .ok fs') :
    ∃ names content, fs.place p = .ok names ∧ ChangesOnly (· = names) fs fs' ∧
      fs'.resolve p = .ok names ∧ fs'.find? p = some (.file content) := by
  unfold appendText at h
  cases hplace : fs.place p with
  | error fault =>
    rw [hplace] at h
    cases h
  | ok names =>
    rw [hplace] at h
    cases h
    dsimp only
    split
    · exact ⟨names, _, rfl, put_spec hhere hplace _⟩
    · exact ⟨names, _, rfl, put_spec hhere hplace _⟩

theorem openText_eq (fs : FileSystem) (p : Path) :
    fs.openText p = (fs.target p).bind fun _ => fs.appendText p "" := by
  unfold openText
  cases fs.target p <;> rfl

theorem openText_eq_ok_iff :
    fs.openText p = .ok fs' ↔ (∃ names, fs.target p = .ok names) ∧ fs.appendText p "" = .ok fs' := by
  rw [openText_eq]
  cases fs.target p with
  | ok names => exact ⟨fun h => ⟨⟨names, rfl⟩, h⟩, fun h => h.2⟩
  | error fault => exact iff_of_false nofun fun ⟨⟨_, h⟩, _⟩ => nomatch h

/-- A file that cannot be opened has no target; text can be added to every one that has. -/
theorem openText_eq_error_iff {fault : FileFault} :
    fs.openText p = .error fault ↔ fs.target p = .error fault := by
  rw [openText_eq]
  cases htarget : fs.target p with
  | ok names =>
    refine iff_of_false ?_ nofun
    show fs.appendText p "" ≠ _
    unfold appendText
    rw [(target_eq_ok_iff.mp htarget).1]
    nofun
  | error fault' => simp [Except.bind]

/-- A text can be written at the end of a file that is there. -/
theorem appendText_of_file {old : ByteArray} (h : fs.find? p = some (.file old)) (text : String) :
    ∃ fs' names, fs.appendText p text = .ok fs' ∧ fs.resolve p = .ok names ∧
      ChangesOnly (· = names) fs fs' ∧ fs.contentAt? names = some (some old) ∧
      fs'.contentAt? names = some (some (old ++ text.toUTF8)) ∧
      fs'.find? p = some (.file (old ++ text.toUTF8)) := by
  obtain ⟨names, hresolve, hfile⟩ := find?_eq_some_iff.mp h
  have hplace : fs.place p = .ok names := by
    unfold place
    rw [hresolve]
    dsimp only
    rw [hfile]
    rfl
  have happend : fs.appendText p text = .ok (fs.put (.file (old ++ text.toUTF8)) names) := by
    unfold appendText
    rw [hplace]
    simp only [Except.map, hfile]
  have htakes := FileTree.takesFile_of_file hfile
  have hchange := changesOnly_put htakes (old ++ text.toUTF8)
  have hself : (fs.put (.file (old ++ text.toUTF8)) names).at? names =
      some (.file (old ++ text.toUTF8)) := FileTree.at?_put_self htakes _
  exact ⟨_, names, happend, hresolve, hchange, congrArg (Option.map FileTree.content?) hfile,
    congrArg (Option.map FileTree.content?) hself,
    find?_eq_some_iff.mpr ⟨names, resolve_mono hchange hresolve, hself⟩⟩

end

end FileSystem

end BenchCompare
