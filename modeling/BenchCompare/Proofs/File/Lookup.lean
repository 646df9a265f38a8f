import BenchCompare.File.System

/-! # What lies at a path

  Reading a path has two halves: its parts are resolved to the names that lead
  straight to a node, and the node is looked up.  In a file system as any system
  keeps it, where work goes on in a directory and each directory holds one thing
  under a name, which it lists, the halves agree: what is resolved is there
  (`exists_find?_of_holds`), and a child of a directory is found under its path
  (`find?_child`).
-/

namespace BenchCompare

/-- Without double keys, look-up finds every entry. -/
theorem lookup_of_mem {α : Type} {es : List (Text × α)} (hnodup : (es.map Prod.fst).Nodup)
    {name : Text} {a : α} (h : (name, a) ∈ es) : es.lookup name = some a := by
  induction es with
  | nil => cases h
  | cons e es ih =>
    obtain ⟨name', a'⟩ := e
    rw [List.map_cons, List.nodup_cons] at hnodup
    obtain ⟨hnew, hnodup⟩ := hnodup
    rcases List.mem_cons.mp h with heq | hmem
    · cases heq
      exact List.lookup_cons_self
    · have hne : name ≠ name' := by
        rintro rfl
        exact hnew (List.mem_map.mpr ⟨_, hmem, rfl⟩)
      rw [List.lookup_cons, beq_false_of_ne hne]
      exact ih hnodup hmem

namespace FileTree

theorem at?_append (t : FileTree) (names names' : List Text) :
    t.at? (names ++ names') = (t.at? names).bind (·.at? names') := by
  induction names generalizing t with
  | nil => rfl
  | cons name names ih =>
    simp only [List.cons_append, at?]
    cases t.child? name with
    | none => rfl
    | some c => exact ih c

theorem isSome_at?_of_append {t : FileTree} {names names' : List Text}
    (h : (t.at? (names ++ names')).isSome) : (t.at? names).isSome := by
  rw [at?_append] at h
  cases hnames : t.at? names with
  | none =>
    rw [hnames] at h
    cases h
  | some c => rfl

end FileTree

/-- A path with parts takes a step for each of them. -/
theorem Path.steps_of_concat {p : Path} {parts : List Text} {name : Text}
    (h : p.parts = parts ++ [name]) : p.steps = parts.map Text.listed ++ [name.listed] := by
  unfold steps
  rw [if_neg (by simp [h]), h, List.map_append, List.map_cons, List.map_nil]

namespace FileSystem

/-- What a directory holds is one thing under each name, and the names are as they are listed. -/
structure IsListing (children : List (Text × FileTree)) : Prop where
  distinct : (children.map Prod.fst).Nodup
  listed : ∀ e ∈ children, e.1.listed = e.1

/-- Work goes on in a directory, and each directory lists what it holds. -/
structure IsTree (fs : FileSystem) : Prop where
  here : (fs.at? fs.here).isSome
  directories : ∀ names children, fs.at? names = some (.dir children) → IsListing children

/-! ### Resolving -/

theorem resolveFrom_append (fs : FileSystem) (here parts parts' : List Text) :
    fs.resolveFrom here (parts ++ parts') =
      (fs.resolveFrom here parts).bind (fs.resolveFrom · parts') := by
  induction parts generalizing here with
  | nil => rfl
  | cons part parts ih =>
    rw [List.cons_append, resolveFrom.eq_def, resolveFrom.eq_def fs here (part :: parts)]
    dsimp only
    cases fs.at? here.reverse with
    | none => rfl
    | some node =>
      cases node with
      | file content => rfl
      | dir children =>
        dsimp only
        rw [ih, ih, ih]
        split
        · rfl
        · split
          · rfl
          · split
            · rfl
            · split <;> rfl

/-- What is resolved is there, if it starts from something that is there. -/
theorem isSome_at?_of_resolveFrom {fs : FileSystem} {here parts names : List Text}
    (hhere : (fs.at? here.reverse).isSome) (h : fs.resolveFrom here parts = .ok names) :
    (fs.at? names.reverse).isSome := by
  induction parts generalizing here with
  | nil =>
    cases h
    exact hhere
  | cons part parts ih =>
    rw [resolveFrom.eq_def] at h
    dsimp only at h
    split at h
    · next children hdir =>
      split at h
      · cases h
      · split at h
        · exact ih hhere h
        · split at h
          · refine ih ?_ h
            -- The directory around one that is there is there as well.
            cases here with
            | nil => exact hhere
            | cons name here =>
              rw [List.reverse_cons] at hhere
              exact FileTree.isSome_at?_of_append hhere
          · split at h
            · next hchild =>
              refine ih ?_ h
              unfold at? at hdir ⊢
              rw [List.reverse_cons, FileTree.at?_append, hdir]
              obtain ⟨node, hnode⟩ := Option.isSome_iff_exists.mp hchild
              simp only [Option.bind_some, FileTree.at?, FileTree.child?, hnode, Option.isSome_some]
            · cases h
    · cases h
    · cases h

variable {fs : FileSystem} {p : Path}

theorem resolve_eq_ok_iff {names : List Text} :
    fs.resolve p = .ok names ↔
      refusal? p.text = none ∧ fs.resolveParts (p.slashes ≠ 0) p.steps = .ok names := by
  unfold resolve
  cases refusal? p.text with
  | none => exact ⟨fun h => ⟨rfl, h⟩, fun h => h.2⟩
  | some m =>
    constructor
    · intro h
      cases h
    · rintro ⟨h, -⟩
      cases h

theorem resolve_of_refusal? {m : Missing} (h : refusal? p.text = some m) : fs.resolve p = .error m := by
  unfold resolve
  rw [h]

theorem resolveParts_eq_ok_iff {absolute : Bool} {parts names : List Text} :
    fs.resolveParts absolute parts = .ok names ↔
      ∃ reversed, fs.resolveFrom (fs.base absolute).reverse parts = .ok reversed ∧
        names = reversed.reverse := by
  unfold resolveParts
  cases fs.resolveFrom (fs.base absolute).reverse parts with
  | error m => exact iff_of_false nofun fun ⟨_, h, _⟩ => nomatch h
  | ok reversed => simp [Except.map, eq_comm]

theorem isSome_at?_of_resolve (hfs : fs.IsTree) {names : List Text}
    (h : fs.resolve p = .ok names) : (fs.at? names).isSome := by
  obtain ⟨-, h⟩ := resolve_eq_ok_iff.mp h
  obtain ⟨reversed, hfrom, rfl⟩ := resolveParts_eq_ok_iff.mp h
  refine isSome_at?_of_resolveFrom ?_ hfrom
  rw [List.reverse_reverse]
  unfold base
  split
  · rfl
  · exact hfs.here

theorem find?_eq_some_iff {node : FileTree} : fs.find? p = some node ↔
    ∃ names, fs.resolve p = .ok names ∧ fs.at? names = some node := by
  unfold find?
  cases fs.resolve p with
  | error m => simp
  | ok names => simp

/-! ### Steps -/

/-- The step that a path without parts takes stays where it is. -/
theorem resolveParts_of_steps {absolute : Bool} {names : List Text}
    (h : fs.resolveParts absolute p.steps = .ok names) :
    fs.resolveParts absolute (p.parts.map Text.listed) = .ok names := by
  unfold Path.steps at h
  split at h
  · next hempty =>
    obtain ⟨reversed, hfrom, rfl⟩ := resolveParts_eq_ok_iff.mp h
    rw [hempty.2, List.map_nil, resolveParts_eq_ok_iff]
    refine ⟨_, rfl, ?_⟩
    rw [resolveFrom.eq_def] at hfrom
    dsimp only at hfrom
    split at hfrom
    · split at hfrom
      · cases hfrom
      · cases hfrom
        rfl
    · cases hfrom
    · cases hfrom
  · exact h

/-! ### Holding and reading -/

theorem holds_eq_true_iff : fs.holds p = .ok true ↔ ∃ names, fs.resolve p = .ok names := by
  unfold holds
  cases fs.resolve p with
  | ok names => exact iff_of_true rfl ⟨names, rfl⟩
  | error m =>
    constructor
    · intro h
      dsimp only at h
      split at h <;> cases h
    · rintro ⟨names, h⟩
      cases h

theorem holds_eq_error_iff {fault : FileFault} :
    fs.holds p = .error fault ↔ ∃ m, fs.resolve p = .error m ∧ m.isFault = true ∧ fault = m.fault p := by
  unfold holds
  constructor
  · intro h
    split at h
    · cases h
    · next m hresolve =>
      split at h
      · next hm =>
        cases h
        exact ⟨m, hresolve, hm, rfl⟩
      · cases h
  · rintro ⟨m, hresolve, hm, rfl⟩
    rw [hresolve]
    exact if_pos hm

theorem holds_of_find? {node : FileTree} (h : fs.find? p = some node) : fs.holds p = .ok true := by
  rw [holds_eq_true_iff]
  unfold find? at h
  split at h
  · next names hnames => exact ⟨names, hnames⟩
  · cases h

theorem isListing_of_find? (hfs : fs.IsTree) {children : List (Text × FileTree)}
    (h : fs.find? p = some (.dir children)) : IsListing children := by
  obtain ⟨names, -, hdir⟩ := find?_eq_some_iff.mp h
  exact hfs.directories names children hdir

theorem exists_find?_of_holds (hfs : fs.IsTree) (h : fs.holds p = .ok true) :
    ∃ node, fs.find? p = some node := by
  obtain ⟨names, hnames⟩ := holds_eq_true_iff.mp h
  obtain ⟨node, hnode⟩ := Option.isSome_iff_exists.mp (isSome_at?_of_resolve hfs hnames)
  refine ⟨node, ?_⟩
  unfold find?
  rw [hnames]
  exact hnode

theorem mayRead_of_resolve {names : List Text} (h : fs.resolve p = .ok names) :
    fs.mayRead p = fs.allowed.read names := by
  unfold mayRead
  rw [h]
  rfl

theorem mayEnter_of_resolve {names : List Text} (h : fs.resolve p = .ok names) :
    fs.mayEnter p = fs.allowed.enter names := by
  unfold mayEnter
  rw [h]
  rfl

/-- The text of a file, which is there and may be read. -/
theorem readText_of_file {content : ByteArray} (h : fs.find? p = some (.file content))
    (hread : fs.mayRead p = true) :
    fs.readText p = ((Text.decode content).map Text.unifyLines).mapError .encoding := by
  unfold find? at h
  split at h
  · next names hnames =>
    rw [mayRead_of_resolve hnames] at hread
    unfold readText
    rw [hnames]
    dsimp only
    rw [hread, h]
    rfl
  · cases h

/-- What may not be read is not. -/
theorem readText_of_not_mayRead (hholds : fs.holds p = .ok true) (hread : fs.mayRead p = false) :
    fs.readText p = .error (.denied p) := by
  obtain ⟨names, hnames⟩ := holds_eq_true_iff.mp hholds
  rw [mayRead_of_resolve hnames] at hread
  unfold readText
  rw [hnames]
  dsimp only
  rw [hread]
  rfl

theorem readText_of_no_file (hholds : fs.holds p = .ok true) (hread : fs.mayRead p = true)
    (h : ∀ content, fs.find? p ≠ some (.file content)) : fs.readText p = .error (.isDirectory p) := by
  obtain ⟨names, hnames⟩ := holds_eq_true_iff.mp hholds
  rw [mayRead_of_resolve hnames] at hread
  unfold find? at h
  unfold readText
  rw [hnames] at h ⊢
  dsimp only at h ⊢
  rw [hread]
  rw [Bool.not_true, if_neg Bool.false_ne_true]
  split
  · next content hfile => exact absurd hfile (h content)
  · rfl

/-! ### Children -/

/-- The path of what a directory holds leads there, if it can be one and names may be looked up. -/
theorem resolve_child {names : List Text} {children : List (Text × FileTree)} {name : Text}
    (hp : fs.resolve p = .ok names) (hdir : fs.at? names = some (.dir children))
    (hlookup : (children.lookup name).isSome) (hlisted : name.listed = name) (hdot : name ≠ ".")
    (hdots : name ≠ "..") (hpath : refusal? (p.child name).text = none) :
    fs.resolve (p.child name) =
      if fs.allowed.enter names then .ok (names ++ [name]) else .error .denied := by
  obtain ⟨-, hsteps⟩ := resolve_eq_ok_iff.mp hp
  obtain ⟨reversed, hfrom, rfl⟩ := resolveParts_eq_ok_iff.mp (resolveParts_of_steps hsteps)
  unfold resolve
  rw [hpath]
  rw [Path.steps_of_concat (show (p.child name).parts = p.parts ++ [name] from rfl), hlisted]
  unfold resolveParts
  rw [resolveFrom_append]
  show Except.map List.reverse ((fs.resolveFrom (fs.base (p.slashes ≠ 0)).reverse
    (p.parts.map Text.listed)).bind (fs.resolveFrom · [name])) = _
  rw [hfrom]
  cases henter : fs.allowed.enter reversed.reverse with
  | true =>
    simp only [Except.bind, resolveFrom, hdir, henter, Bool.not_true, Bool.false_eq_true, if_false,
      if_neg hdot, if_neg hdots, hlookup, if_true, Except.map, List.reverse_cons]
  | false =>
    simp only [Except.bind, resolveFrom, hdir, henter, Bool.not_false, if_true, Except.map,
      Bool.false_eq_true, if_false]

/-- Where the path of a child leads somewhere, names may be looked up in the directory. -/
theorem mayEnter_of_child {children : List (Text × FileTree)} {name : Text} {node : FileTree}
    {names : List Text} (hdir : fs.find? p = some (.dir children))
    (hlookup : children.lookup name = some node) (hlisted : name.listed = name) (hdot : name ≠ ".")
    (hdots : name ≠ "..")
    (hchild : fs.resolve (p.child name) = .ok names) : fs.mayEnter p = true := by
  unfold find? at hdir
  split at hdir
  · next names' hnames =>
    obtain ⟨hpath, -⟩ := resolve_eq_ok_iff.mp hchild
    have hresolve := resolve_child hnames hdir (Option.isSome_of_eq_some hlookup) hlisted hdot hdots hpath
    rw [hchild] at hresolve
    rw [mayEnter_of_resolve hnames]
    split at hresolve
    · next henter => exact henter
    · cases hresolve
  · cases hdir

/-- What a directory holds is found under its path, if that path can be one and names may be looked up. -/
theorem find?_child {children : List (Text × FileTree)} {name : Text} {node : FileTree}
    (hdir : fs.find? p = some (.dir children)) (hlookup : children.lookup name = some node)
    (hlisted : name.listed = name) (hdot : name ≠ ".") (hdots : name ≠ "..")
    (hpath : refusal? (p.child name).text = none)
    (henter : fs.mayEnter p = true) : fs.find? (p.child name) = some node := by
  unfold find? at hdir
  split at hdir
  · next names hnames =>
    rw [mayEnter_of_resolve hnames] at henter
    have hresolve := resolve_child hnames hdir (Option.isSome_of_eq_some hlookup) hlisted hdot hdots hpath
    rw [if_pos henter] at hresolve
    unfold find?
    rw [hresolve]
    show fs.root.at? (names ++ [name]) = some node
    have hnode : fs.root.at? names = some (.dir children) := hdir
    rw [FileTree.at?_append, hnode]
    simp only [Option.bind_some, FileTree.at?, FileTree.child?, hlookup]
  · cases hdir

end FileSystem

end BenchCompare
