/-
  WorkflowPolicy/Main.lean
  ========================
  **The program.**  It looks at the files that its arguments can name, runs, and
  then prints and logs what the outcome says.  Nothing is decided here.
-/
import Std.Time.Format
import WorkflowPolicy.CommandLine.Run

namespace WorkflowPolicy.Program

open WorkflowPolicy.CommandLine (Escape Outcome)

/-! ### Before the run -/

/-- The texts among the arguments that can name a file. -/
def namedTexts (args : List String) : List String :=
  args.flatMap fun arg => [arg, ((arg.toList.dropWhile (· != '=')).drop 1 |> String.ofList)]

/-- YAML nests as deeply as one does who reads it by calls within calls. -/
def readers : Readers := Readers.own 480

/-- The places that a run can look at. -/
def places (fs : Files) (args : List String) : List Path :=
  (((Settings.defaultFile :: namedTexts args).map Path.ofText).flatMap fun p =>
    p.trail ++ (p.expand fs.home).trail).map fs.place

def look (fs : Files) (place : Path) : IO Files := do
  let here ← IO.currentDir
  if ← (here / place.text).isDir then
    return { fs with directories := place :: fs.directories }
  try
    let text ← IO.FS.readFile place.text
    return { fs with files := Assoc.insert id place ⟨text, Files.newFileMode⟩ fs.files }
  catch _ => return fs

def filesFor (args : List String) : IO Files := do
  let here := Path.ofText (← IO.currentDir).toString
  let home := Path.ofText ((← IO.getEnv "HOME").getD "/")
  let fs : Files := { here, home }
  (places fs args).foldlM look fs

/-! ### After the run -/

def now : IO String := do
  return (← Std.Time.PlainDateTime.now).format "uuuu-MM-dd HH:mm:ss"

/-- Keep a file under a number; the file that stood there goes on, unless it was the
    last. -/
def keep (f : LogFile) (source : Path) : Nat → Nat → IO Unit
  | 0, _ => return
  | steps + 1, k => do
    let target := f.kept k
    if (← ((← IO.currentDir) / target.text).pathExists) && k < f.backupCount then
      keep f target steps (k + 1)
    IO.FS.rename source.text target.text

/-- Write a line to the log file, which is rotated first if the line would fill it. -/
def logLine (f : LogFile) (line : Text) : IO Unit := do
  let place := (← IO.currentDir) / f.path.text
  if ← place.pathExists then
    if f.isFull (← place.metadata).byteSize.toNat line then
      keep f f.path f.backupCount.toNat 1
  if let some line := line.string? then
    (← IO.FS.Handle.mk f.path.text .append).putStr line

/-- Write the records of a run to the console and to the log file. -/
def logRecords (o : Outcome) : IO Unit := do
  let time ← now
  let records := o.warnings.map fun w => (⟨Logger.name, .warning, w⟩ : LogRecord)
  let console ← IO.getStderr
  for r in records do
    console.putStr (Logger.consoleLine time r)
  if let some f := o.logger.file then
    IO.FS.createDirAll f.path.parent.text
    let _ ← IO.FS.Handle.mk f.path.text .append
    for r in records do
      logLine f (Logger.fileLine time r)

/-- What is said of a failure that no command reports. -/
def describe : Escape → String
  | .refused _ => "the workflow holds data of a type that it cannot carry"
  | .frontmatter _ => "the workflow file cannot be read"
  | .settings _ => "the settings cannot be read"
  | .logFile _ => "the log file cannot be opened"
  | .output .strangeKey => "the policy holds a key that JSON does not know"
  | .output .endless => "the policy holds data that contains itself"
  | .output .overlong | .overlong => "the workflow holds a number with too many digits"
  | .unencodable => "the output holds half a character"
  | .unnameable => "no file can have this name"

def finish (o : Outcome) : IO UInt32 := do
  logRecords o
  let errors ← IO.getStderr
  errors.putStr o.errors
  if let some e := o.escaped then
    errors.putStrLn (describe e)
  (← IO.getStdout).putStr o.output
  return o.exitCode.toUInt32

end WorkflowPolicy.Program

def main (args : List String) : IO UInt32 := do
  let fs ← WorkflowPolicy.Program.filesFor args
  WorkflowPolicy.Program.finish
    (WorkflowPolicy.CommandLine.run WorkflowPolicy.Program.readers fs args)
