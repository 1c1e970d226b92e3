/-
  WorkflowPolicy/Proofs/Files.lean
  ================================
  **A file that was written can be read.**  Writing creates the directories above a file,
  so afterwards the path leads to the place where the file was put (`Files.find_write`),
  and reading gives its text with unified line ends (`Files.read_write`).

  A path is found by walking through directories.  Making directories and writing files
  take no directory away, so a walk that was possible stays possible
  (`Files.walk_mono`).
-/
import WorkflowPolicy.Files
import WorkflowPolicy.Proofs.Assoc

namespace WorkflowPolicy

/-! ### Places -/

namespace Path

theorem start_enterAll (p : Path) (names : List String) : (p.enterAll names).start = p.start := by
  induction names generalizing p with
  | nil => rfl
  | cons n names ih =>
    show ((p.enter n).enterAll names).start = p.start
    rw [ih, enter]
    split <;> rfl

/-- A way without double dots only leads down. -/
theorem enterAll_of_no_dots {p : Path} {names : List String} (h : ".." ∉ names) :
    p.enterAll names = { p with names := p.names ++ names } := by
  induction names generalizing p with
  | nil => simp [enterAll]
  | cons n names ih =>
    have hn : n ≠ ".." := fun heq => h (by simp [heq])
    show (p.enter n).enterAll names = _
    rw [ih fun hmem => h (List.mem_cons_of_mem _ hmem), enter, if_neg hn]
    simp

theorem no_dots_enterAll {p : Path} (hp : ".." ∉ p.names) (names : List String) :
    ".." ∉ (p.enterAll names).names := by
  induction names generalizing p with
  | nil => exact hp
  | cons n names ih =>
    apply ih
    rw [enter]
    split
    · exact fun h => hp (List.dropLast_subset _ h)
    · rename_i hn
      intro h
      rcases List.mem_append.mp h with hmem | hmem
      · exact hp hmem
      · exact hn (List.mem_singleton.mp hmem).symm

/-- The path that stands for a place stands for itself. -/
theorem resolve_resolve {here : Path} (h : here.isRelative = false) (p : Path) :
    resolve here (resolve here p) = resolve here p := by
  have hbelow : (here.below p).isRelative = false := by
    rw [below]
    split
    · exact h
    · rename_i hp
      simpa using hp
  have hfull : (resolve here p).isRelative = false := by
    rw [resolve, isRelative, start_enterAll]
    exact hbelow
  -- no double dot is left, so nothing is taken back a second time
  have hdots : ".." ∉ (resolve here p).names := no_dots_enterAll List.not_mem_nil _
  have hself : here.below (resolve here p) = resolve here p := by
    rw [below, hfull]
    rfl
  rw [resolve, hself, enterAll_of_no_dots hdots]
  rfl

end Path

namespace Files

variable {fs fs' : Files} {p q : Path}

/-! ### Walks -/

/-- Whether every directory is still one. -/
structure Keeps (fs fs' : Files) : Prop where
  here : fs'.here = fs.here
  home : fs'.home = fs.home
  directories : ∀ q, fs.isDirectoryAt q = true → fs'.isDirectoryAt q = true

theorem Keeps.refl (fs : Files) : Keeps fs fs := ⟨rfl, rfl, fun _ h => h⟩

theorem Keeps.trans {fs'' : Files} (h : Keeps fs fs') (h' : Keeps fs' fs'') : Keeps fs fs'' :=
  ⟨h'.here.trans h.here, h'.home.trans h.home, fun q hq => h'.directories q (h.directories q hq)⟩

/-- A walk that is possible stays possible. -/
theorem walk_mono (h : Keeps fs fs') {start : Path} {names : List String}
    (hwalk : fs.walk start names = .ok q) : fs'.walk start names = .ok q := by
  induction names generalizing start with
  | nil => exact hwalk
  | cons n names ih =>
    rw [walk] at hwalk ⊢
    split at hwalk
    · rename_i hdir
      rw [if_pos (h.directories start hdir)]
      exact ih hwalk
    · cases hwalk

theorem find_mono (h : Keeps fs fs') (hfind : fs.find p = .ok q) : fs'.find p = .ok q := by
  have hplace : fs'.place {} = fs.place {} := congrArg (Path.resolve · {}) h.here
  rw [find] at hfind ⊢
  rw [hplace]
  split at hfind
  · rename_i hp
    rw [if_pos hp]
    exact walk_mono h hfind
  · rename_i hp
    rw [if_neg hp]
    exact walk_mono h hfind

theorem walk_append {start : Path} {names : List String} (more : List String)
    (hwalk : fs.walk start names = .ok q) : fs.walk start (names ++ more) = fs.walk q more := by
  induction names generalizing start with
  | nil =>
    cases hwalk
    rfl
  | cons n names ih =>
    rw [walk] at hwalk
    rw [List.cons_append, walk]
    split at hwalk
    · rename_i hdir
      rw [if_pos hdir]
      exact ih hwalk
    · cases hwalk

/-- A path can be found when the directory above it can. -/
theorem find_of_parent (hnames : p.names ≠ []) (hparent : fs.find p.parent = .ok q)
    (hdir : fs.isDirectoryAt q = true) : fs.find p = .ok (q.enter p.name) := by
  -- the last name is one more step from the directory above
  have hsplit : p.names = p.parent.names ++ [p.name] := by
    rw [Path.parent, Path.name, List.getLast?_eq_some_getLast hnames, Option.getD_some,
      List.dropLast_concat_getLast hnames]
  have hrelative : p.parent.isRelative = p.isRelative := rfl
  have hlast : fs.walk q [p.name] = .ok (q.enter p.name) := by
    rw [walk, if_pos hdir, walk]
  rw [find] at hparent ⊢
  rw [hrelative] at hparent
  rw [hsplit]
  split at hparent
  · rename_i hp
    rw [if_pos hp, walk_append _ hparent, hlast]
  · rename_i hp
    rw [if_neg hp]
    exact (walk_append _ hparent).trans hlast

/-! ### Directories that are made -/

theorem keeps_addDirectory (fs : Files) (q : Path) :
    Keeps fs { fs with directories := q :: fs.directories } := by
  refine ⟨rfl, rfl, ?_⟩
  intro r hr
  simp only [isDirectoryAt, place, List.map_cons, Bool.or_eq_true] at hr ⊢
  rcases hr with (hr | hr) | hr
  · exact .inl (.inl hr)
  · refine .inl (.inr ?_)
    rw [List.contains_cons, Bool.or_eq_true]
    exact .inr hr
  · exact .inr hr

theorem find_makeDirectory (hhere : fs.here.isRelative = false)
    (h : fs.makeDirectory p = .ok fs') :
    Keeps fs fs' ∧ ∃ q, fs'.find p = .ok q ∧ fs'.isDirectoryAt q = true := by
  obtain ⟨q, hfind, ⟨hdir, rfl⟩ | rfl⟩ := makeDirectory_eq_ok h
  · exact ⟨Keeps.refl _, q, hfind, hdir⟩
  · have hkeeps := keeps_addDirectory fs q
    refine ⟨hkeeps, q, find_mono hkeeps hfind, ?_⟩
    have hplace : Path.resolve fs.here q = q := by
      rw [find_eq_ok hfind, place, Path.resolve_resolve hhere]
    simp [isDirectoryAt, place, hplace]

theorem find_makeDirectories {n : Nat} (hhere : fs.here.isRelative = false)
    (h : fs.makeDirectories p n = .ok fs') :
    Keeps fs fs' ∧ ∃ q, fs'.find p = .ok q ∧ fs'.isDirectoryAt q = true := by
  induction n generalizing fs fs' p with
  | zero =>
    obtain hone | ⟨m, mid, hn, -⟩ := makeDirectories_eq_ok h
    · exact find_makeDirectory hhere hone
    · cases hn
  | succ n ih =>
    obtain hone | ⟨m, mid, hn, hp, hlast⟩ := makeDirectories_eq_ok h
    · exact find_makeDirectory hhere hone
    · cases hn
      obtain ⟨hmid, -⟩ := ih hhere hp
      obtain ⟨hkeeps, hfound⟩ := find_makeDirectory (hmid.here ▸ hhere) hlast
      exact ⟨hmid.trans hkeeps, hfound⟩

/-! ### Files that are written -/

theorem keeps_insert (fs : Files) (q : Path) (f : StoredFile) :
    Keeps fs { fs with files := Assoc.insert id q f fs.files } := by
  refine ⟨rfl, rfl, ?_⟩
  intro r hr
  simp only [isDirectoryAt, place, Bool.or_eq_true, List.any_eq_true] at hr ⊢
  rcases hr with hr | ⟨e, he, hab⟩
  · exact .inl hr
  · obtain ⟨e', he', hkey⟩ : ∃ e' ∈ Assoc.insert id q f fs.files, e'.1 = e.1 := by
      have hsome : Assoc.get? id e.1 (Assoc.insert id q f fs.files) ≠ none := by
        rw [Assoc.get?_insert]
        split
        · exact Option.some_ne_none _
        · exact (Assoc.get?_ne_none_iff id).mpr ⟨e, he, rfl⟩
      exact (Assoc.get?_ne_none_iff id).mp hsome
    exact .inr ⟨e', he', hkey ▸ hab⟩

theorem find_write {text : String} {mode : Nat} (hhere : fs.here.isRelative = false)
    (hnames : p.names ≠ []) (h : fs.write p text mode = .ok fs') :
    Keeps fs fs' ∧ ∃ q, fs'.find p = .ok q := by
  obtain ⟨mid, hparents, rfl⟩ := write_eq_ok h
  obtain ⟨hmid, q, hfind, hdir⟩ := find_makeDirectories hhere hparents
  have hkeeps := keeps_insert mid (mid.place p) ⟨text, mode⟩
  refine ⟨hmid.trans hkeeps, q.enter p.name, ?_⟩
  exact find_of_parent hnames (find_mono hkeeps hfind) (hkeeps.directories q hdir)

theorem storedAt?_write {text : String} {mode : Nat} (h : fs.write p text mode = .ok fs')
    (hfind : fs'.find p = .ok q) : fs'.storedAt? q = some ⟨text, mode⟩ := by
  have hget : fs'.get? p = some ⟨text, mode⟩ := by
    rw [get?_write h, if_pos rfl]
  rw [find_eq_ok hfind]
  exact hget

theorem isFile_of_read {text : String} (h : fs.read p = .ok text) : fs.isFile p = true := by
  rw [read] at h
  rw [isFile]
  cases hq : fs.find p with
  | error e =>
    rw [hq] at h
    cases h
  | ok q =>
    rw [hq] at h
    simp only [bind, Except.bind] at h
    split at h
    · rename_i f hf
      show (fs.storedAt? q).isSome = true
      rw [hf]
      rfl
    · cases h

theorem contains_of_read {text : String} (h : fs.read p = .ok text) : fs.contains p = true := by
  rw [contains, isFile_of_read h, Bool.true_or]

/-- What was written is read, with unified line ends. -/
theorem read_write {text : String} {mode : Nat} (hhere : fs.here.isRelative = false)
    (hnames : p.names ≠ []) (h : fs.write p text mode = .ok fs') :
    fs'.read p = .ok (String.ofList (Text.unifyLineEnds text.toList)) := by
  obtain ⟨-, q, hfind⟩ := find_write hhere hnames h
  rw [read, hfind]
  simp only [bind, Except.bind, storedAt?_write h hfind]
  rfl

end Files

end WorkflowPolicy
