/-
  WorkflowPolicy/Logger.lean
  ==========================
  **Where records go.**  A logger lets the records of its level and of higher ones
  pass, to the console and, if the settings name one, to a file.  Records of other
  programs pass from warnings on and stay out of the file.

  A file that would reach its size is rotated first: it is kept under the number one,
  the files that were kept before go on by one number, and a new file begins.
-/
import WorkflowPolicy.Files
import WorkflowPolicy.Settings

namespace WorkflowPolicy

structure LogFile where
  path : Path
  maxBytes : Int
  backupCount : Int
deriving DecidableEq, Repr

namespace LogFile

/-- Where the file is kept that was rotated `k` times. -/
def kept (f : LogFile) (k : Nat) : Path := f.path.extended ("." ++ Decimal.ofInt k)

/-- Whether a line would bring a file to its size.  An empty file takes every line. -/
def isFull (f : LogFile) (size : Nat) (line : Text) : Bool :=
  size != 0 && decide (f.maxBytes ≤ size + line.toList.length)

/-- Keep a text under a number; the file that stood there goes on, unless it was the
    last.  `steps` bounds the number of files that go on. -/
def keep (f : LogFile) (text : String) : Nat → Nat → Files → Except FileError Files
  | 0, _, fs => .ok fs
  | steps + 1, k, fs => do
    let fs ← match fs.get? (f.kept k) with
      | some old => if k < f.backupCount then keep f old.text steps (k + 1) fs else .ok fs
      | none => .ok fs
    fs.put (f.kept k) text

/-- Begin a new file if a line would bring the file to its size. -/
def makeRoom (f : LogFile) (line : Text) (fs : Files) : Except FileError Files :=
  match fs.get? f.path with
  | some old =>
    if f.isFull old.text.utf8ByteSize line then do
      (← f.keep old.text (fs.files.length + 1) 1 fs).put f.path ""
    else .ok fs
  | none => .ok fs

end LogFile

structure Logger where
  level : LogLevel := .warning
  file : Option LogFile := none
deriving DecidableEq, Repr

structure LogRecord where
  source : String
  level : LogLevel
  message : Text
deriving DecidableEq, Repr

namespace Logger

def name : String := "flowguard"

/-! ### Setting up -/

/-- The logger of the console: `verbose` lets every record pass. -/
def console (s : LogSettings) (verbose : Bool) : Logger :=
  { level := if verbose then .debug else s.level }

def bytesPerMegabyte : Int := 1024 * 1024

/-- The file of the settings, which is created if it is missing.  Its name has to be one
    that can be encoded. -/
def openFile (s : LogSettings) (file : Text) (fs : Files) :
    Except FileError (Files × LogFile) := do
  let file ← file.string?.elim (.error .unnameable) .ok
  let path ← fs.expand (Path.ofText file)
  let fs ← fs.append path ""
  return (fs, ⟨path, s.maxSizeMb * bytesPerMegabyte, s.backupCount⟩)

/-- The logger that the settings ask for.  An empty file name stands for none. -/
def setup (s : LogSettings) (verbose : Bool) (fs : Files) : Except FileError (Files × Logger) :=
  match s.file with
  | none | some .empty => .ok (fs, console s verbose)
  | some file => do
    let (fs, opened) ← openFile s file fs
    return (fs, { console s verbose with file := some opened })

/-! ### Records -/

/-- Whether a record comes from a part of the program. -/
def isOwn (source : String) : Bool := source == name || (name ++ ".").isPrefixOf source

def passes (l : Logger) (r : LogRecord) : Bool :=
  r.level.passes (if isOwn r.source then l.level else .warning)

/-- A level in a column of eight characters. -/
def levelColumn (l : LogLevel) : String := String.ofList (l.heading.toList.rightpad 8 ' ')

def fileLine (time : String) (r : LogRecord) : Text :=
  Text.intercalate " | " [time, levelColumn r.level, r.source, r.message] ++ "\n"

def consoleLine (time : String) (r : LogRecord) : String :=
  Text.encoded (Text.intercalate " - " [time, r.source, r.level.heading, r.message] ++ "\n")

/-- Log a record.  A line that cannot be encoded is left out of the file, which may have
    been rotated for it. -/
def log (l : Logger) (time : String) (r : LogRecord) (fs : Files) : Except FileError Files :=
  match l.file with
  | some f =>
    if isOwn r.source && l.passes r then do
      let line := fileLine time r
      let fs ← f.makeRoom line fs
      match line.string? with
      | some line => fs.append f.path line
      | none => .ok fs
    else .ok fs
  | none => .ok fs

end Logger

end WorkflowPolicy
