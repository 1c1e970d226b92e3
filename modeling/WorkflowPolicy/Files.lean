/-
  WorkflowPolicy/Files.lean
  =========================
  **The files that a run reads and writes.**  Files are a finite mapping from places
  to texts, seen from a working directory and a home directory.  A directory exists
  if it is known or holds a file.

  A path leads to a place only if every name on the way, but the last one, is that of
  a directory; this holds of a name that a double dot takes back, too.  Writing
  creates the directories above a file.
-/
import WorkflowPolicy.Data
import WorkflowPolicy.Path
import WorkflowPolicy.Text.Lines

namespace WorkflowPolicy

structure StoredFile where
  text : String
  mode : Nat
deriving DecidableEq, Repr

structure Files where
  here : Path
  home : Path
  files : List (Path × StoredFile) := []
  /-- Directories besides those that hold files. -/
  directories : List Path := []
deriving Repr

inductive FileError where
  | missing
  | isDirectory
  /-- A file stands in the place of the directory. -/
  | directoryIsFile
  /-- A file stands in the place of a directory further above. -/
  | notDirectory
  | unknownHome
  | unnameable
deriving DecidableEq, Repr

/-- The text of an error, for the one that is reported by its text. -/
def FileError.message? : FileError → Option String
  | .unnameable => some "embedded null byte"
  | _ => none

def isUnnameable (name : String) : Bool := name.toList.contains '\x00'

namespace Files

/-! ### Places -/

/-- The place of a path, if the directories on the way exist. -/
def place (fs : Files) (p : Path) : Path := Path.resolve fs.here p

def storedAt? (fs : Files) (place : Path) : Option StoredFile := Assoc.get? id place fs.files

def isDirectoryAt (fs : Files) (place : Path) : Bool :=
  place.names.isEmpty || place == fs.place fs.here || place == fs.place fs.home
    || (fs.directories.map fs.place).contains place || fs.files.any fun e => place.isAbove e.1

/-- The place that names lead to.  Only a directory can be gone through. -/
def walk (fs : Files) (start : Path) : List String → Except FileError Path
  | [] => .ok start
  | n :: rest =>
    if fs.isDirectoryAt start then walk fs (start.enter n) rest
    else .error (if (fs.storedAt? start).isSome then .notDirectory else .missing)

def find (fs : Files) (p : Path) : Except FileError Path :=
  if p.isRelative then fs.walk (fs.place {}) p.names else fs.walk { p with names := [] } p.names

/-- A way of names leads to its end and nowhere else. -/
theorem walk_eq_ok {fs : Files} {a q : Path} {names : List String}
    (h : fs.walk a names = .ok q) : q = a.enterAll names := by
  induction names generalizing a with
  | nil => simpa [walk, Path.enterAll, eq_comm] using h
  | cons n rest ih =>
    simp only [walk] at h
    split at h
    · simpa [Path.enterAll] using ih h
    · exact absurd h (by simp)

theorem find_eq_ok {fs : Files} {p q : Path} (h : fs.find p = .ok q) : q = fs.place p := by
  unfold find at h
  split at h
  · rename_i hp
    have := walk_eq_ok h
    subst this
    simp [place, Path.resolve, Path.below, Path.isRelative, Path.enterAll] at hp ⊢
    simp [hp, List.foldl_append]
  · rename_i hp
    have := walk_eq_ok h
    subst this
    simp [place, Path.resolve, Path.below, hp]

/-! ### Looking -/

def get? (fs : Files) (p : Path) : Option StoredFile := fs.storedAt? (fs.place p)

def isFile (fs : Files) (p : Path) : Bool :=
  match fs.find p with
  | .ok q => (fs.storedAt? q).isSome
  | .error _ => false

def isDirectory (fs : Files) (p : Path) : Bool :=
  match fs.find p with
  | .ok q => fs.isDirectoryAt q
  | .error _ => false

def contains (fs : Files) (p : Path) : Bool := fs.isFile p || fs.isDirectory p

/-! ### Reading -/

/-- The text of a file with unified line ends. -/
def read (fs : Files) (p : Path) : Except FileError String := do
  let q ← fs.find p
  match fs.storedAt? q with
  | some f => return String.ofList (Text.unifyLineEnds f.text.toList)
  | none => throw (if fs.isDirectoryAt q then .isDirectory else .missing)

def expand (fs : Files) (p : Path) : Except FileError Path :=
  if p.isForeignHome then .error .unknownHome else .ok (p.expand fs.home)

/-! ### Directories -/

/-- Make a directory in one that exists.  A directory that is there already will do. -/
def makeDirectory (fs : Files) (p : Path) : Except FileError Files := do
  let q ← fs.find p
  if (fs.storedAt? q).isSome then throw .directoryIsFile
  else if fs.isDirectoryAt q then return fs
  else return { fs with directories := q :: fs.directories }

/-- Make a directory; where the one above it is missing, that one is made first.
    `above` bounds how far up this goes. -/
def makeDirectories (fs : Files) (p : Path) (above : Nat) : Except FileError Files :=
  match fs.makeDirectory p, above with
  | .error .missing, n + 1 => do
    let fs ← fs.makeDirectories p.parent n
    fs.makeDirectory p
  | result, _ => result

def makeParents (fs : Files) (p : Path) : Except FileError Files :=
  fs.makeDirectories p.parent p.names.length

theorem makeDirectory_eq_ok {fs fs' : Files} {p : Path} (h : fs.makeDirectory p = .ok fs') :
    ∃ q, fs.find p = .ok q ∧ (fs.isDirectoryAt q = true ∧ fs' = fs
      ∨ fs' = { fs with directories := q :: fs.directories }) := by
  rw [makeDirectory] at h
  cases hq : fs.find p with
  | error e =>
    rw [hq] at h
    cases h
  | ok q =>
    rw [hq] at h
    simp only [bind, Except.bind] at h
    split at h
    · cases h
    · split at h
      · rename_i hdir
        exact ⟨q, rfl, .inl ⟨hdir, (Except.ok.inj h).symm⟩⟩
      · exact ⟨q, rfl, .inr (Except.ok.inj h).symm⟩

theorem makeDirectory_files {fs fs' : Files} {p : Path} (h : fs.makeDirectory p = .ok fs') :
    fs'.here = fs.here ∧ fs'.files = fs.files := by
  obtain ⟨q, -, ⟨-, rfl⟩ | rfl⟩ := makeDirectory_eq_ok h
  · exact ⟨rfl, rfl⟩
  · exact ⟨rfl, rfl⟩

/-- Directories are made by one step, or by those above and then one step. -/
theorem makeDirectories_eq_ok {n : Nat} {fs fs' : Files} {p : Path}
    (h : fs.makeDirectories p n = .ok fs') :
    fs.makeDirectory p = .ok fs'
      ∨ ∃ m mid, n = m + 1 ∧ fs.makeDirectories p.parent m = .ok mid
        ∧ mid.makeDirectory p = .ok fs' := by
  unfold makeDirectories at h
  split at h
  · rename_i m _
    cases hp : fs.makeDirectories p.parent m with
    | error e =>
      rw [hp] at h
      cases h
    | ok mid =>
      rw [hp] at h
      exact .inr ⟨m, mid, rfl, hp, h⟩
  · exact .inl h

/-- Making directories leaves the files alone. -/
theorem makeDirectories_files {n : Nat} {fs fs' : Files} {p : Path}
    (h : fs.makeDirectories p n = .ok fs') : fs'.here = fs.here ∧ fs'.files = fs.files := by
  induction n generalizing fs fs' p with
  | zero =>
    obtain hone | ⟨m, mid, hn, -⟩ := makeDirectories_eq_ok h
    · exact makeDirectory_files hone
    · cases hn
  | succ n ih =>
    obtain hone | ⟨m, mid, hn, hp, hlast⟩ := makeDirectories_eq_ok h
    · exact makeDirectory_files hone
    · cases hn
      have h₁ := ih hp
      have h₂ := makeDirectory_files hlast
      exact ⟨h₂.1.trans h₁.1, h₂.2.trans h₁.2⟩

/-! ### Writing -/

/-- Put a file in a place, over the one that is there. -/
def write (fs : Files) (p : Path) (text : String) (mode : Nat) : Except FileError Files := do
  if p.names.any isUnnameable then throw .unnameable
  let fs ← fs.makeParents p
  if fs.isDirectory p then throw .isDirectory
  return { fs with files := Assoc.insert id (fs.place p) ⟨text, mode⟩ fs.files }

def newFileMode : Nat := 0o644

/-- Write a text, with the permission bits of the file that is there. -/
def put (fs : Files) (p : Path) (text : String) : Except FileError Files :=
  fs.write p text (match fs.get? p with
    | some f => f.mode
    | none => newFileMode)

/-- Add text to the end of a file, which is created if it is missing. -/
def append (fs : Files) (p : Path) (text : String) : Except FileError Files :=
  fs.put p (match fs.get? p with
    | some f => f.text ++ text
    | none => text)

/-! ### What was written is there -/

/-- The directories above are made first, then the file is put in its place. -/
theorem write_eq_ok {fs fs' : Files} {p : Path} {text : String} {mode : Nat}
    (h : fs.write p text mode = .ok fs') :
    ∃ mid, fs.makeParents p = .ok mid
      ∧ fs' = { mid with files := Assoc.insert id (mid.place p) ⟨text, mode⟩ mid.files } := by
  rw [write] at h
  split at h
  · cases h
  · cases hparents : fs.makeParents p with
    | error e =>
      rw [hparents] at h
      cases h
    | ok mid =>
      rw [hparents] at h
      simp only [bind, Except.bind] at h
      split at h
      · cases h
      · exact ⟨mid, rfl, (Except.ok.inj h).symm⟩

theorem get?_write {fs fs' : Files} {p : Path} {text : String} {mode : Nat}
    (h : fs.write p text mode = .ok fs') (q : Path) :
    fs'.get? q = if fs.place p = fs.place q then some ⟨text, mode⟩ else fs.get? q := by
  obtain ⟨mid, hparents, rfl⟩ := write_eq_ok h
  obtain ⟨hhere, hfiles⟩ := makeDirectories_files hparents
  simpa [get?, storedAt?, place, hhere, hfiles] using
    Assoc.get?_insert id (fs.place p) (fs.place q) ⟨text, mode⟩ fs.files

end Files

end WorkflowPolicy
