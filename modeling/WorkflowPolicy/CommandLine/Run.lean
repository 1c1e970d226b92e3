/-
  WorkflowPolicy/CommandLine/Run.lean
  ===================================
  **Running the program.**  A run reads files and ends with an exit code and two
  texts, one for the output and one for what went wrong.  It writes nothing itself:
  the records of a run are left in its outcome, with the logger that takes them.

  A workflow that has no policy ends a command with code 1, arguments that make no
  request end the program with code 2.  Some failures are reported by no command;
  they escape.
-/
import WorkflowPolicy.CommandLine.Command
import WorkflowPolicy.CommandLine.Summary
import WorkflowPolicy.Frontmatter
import WorkflowPolicy.Json.Writer
import WorkflowPolicy.Logger
import WorkflowPolicy.Settings.Storage
import WorkflowPolicy.Text.Style

namespace WorkflowPolicy.CommandLine

/-! ### Invocations -/

structure Invocation where
  words : String
  synopsis : String
deriving DecidableEq, Repr

namespace Invocation

def program : Invocation := ⟨Logger.name, "[OPTIONS] COMMAND [ARGS]..."⟩

def command (c : Command) : Invocation := ⟨program.words ++ " " ++ c.name, c.synopsis⟩

def alone (c : Command) : Invocation := ⟨program.words, c.synopsis⟩

def usage (i : Invocation) : String := i.words ++ " " ++ i.synopsis

end Invocation

/-! ### Outcomes -/

/-- A failure that no command reports. -/
inductive Escape where
  /-- Data of a type that a workflow does not carry. -/
  | refused (rs : List Refusal)
  | frontmatter (f : Frontmatter.Fault)
  | settings (f : Settings.Fault)
  | logFile (e : FileError)
  /-- A policy that carries data without JSON. -/
  | output (f : Json.Fault)
  /-- An integer with too many digits. -/
  | overlong
  /-- An output that is not made of characters. -/
  | unencodable
  /-- An argument that no file can have as its name. -/
  | unnameable
deriving DecidableEq, Repr

structure Outcome where
  exitCode : Nat := 0
  output : String := ""
  errors : String := ""
  escaped : Option Escape := none
  warnings : List Text := []
  logger : Logger := {}
deriving Repr

/-- What is printed for texts, each with a line break behind it and without styles. -/
def printed (texts : List String) : String :=
  let all := String.join (texts.map fun s => Text.plain s ++ "\n")
  String.ofList (Text.shortenLineEnds all.toList)

/-- The texts before the first one that cannot be printed, and why it cannot. -/
def printable : List (Option Text) → List String × Option Escape
  | [] => ([], none)
  | none :: _ => ([], some .overlong)
  | some s :: rest =>
    match s.string? with
    | some s => let (texts, e) := printable rest; (s :: texts, e)
    | none => ([], some .unencodable)

namespace Outcome

/-- A run that prints texts and ends with a code, unless one cannot be printed. -/
def printing (exitCode : Nat) (texts : List (Option Text)) : Outcome :=
  match printable texts with
  | (texts, none) => { exitCode := exitCode, output := printed texts }
  | (texts, some e) => { exitCode := 1, output := printed texts, escaped := some e }

def done (texts : List (Option Text)) : Outcome := printing 0 texts

/-- A run that ends with an output for a failure. -/
def refusedWith (texts : List (Option Text)) : Outcome := printing 1 texts

def failed (text : Text) : Outcome :=
  { exitCode := 1, errors := printed [Text.encoded ("Error: " ++ text)] }

def escape (e : Escape) : Outcome := { exitCode := 1, escaped := some e }

def usageText (i : Invocation) : String :=
  "Usage: " ++ i.usage ++ "\nTry '" ++ i.words ++ " --help' for help.\n"

def misused (i : Invocation) (fault : UsageFault) : Outcome :=
  match fault with
  | .place _ _ _ .unnameable => escape .unnameable
  | _ =>
    { exitCode := 2
      errors := printed
        ((if fault.showsUsage then [usageText i] else []) ++ ["Error: " ++ fault.message]) }

def help (i : Invocation) : Outcome := { output := printed ["Usage: " ++ i.usage] }

def unloaded (path : Path) (f : Frontmatter.Fault) : Outcome :=
  match f.message? path with
  | some text => failed text
  | none => escape (.frontmatter f)

def unsettled (f : Settings.Fault) : Outcome :=
  match f.message? with
  | some text => failed text
  | none => escape (.settings f)

/-- The outcome that a check leads to, with its warnings. -/
def ofCheck {α : Type} (c : Check α) (accepted : α → Outcome) (rejected : PolicyError → Outcome) :
    Outcome :=
  let outcome := match c.outcome with
    | .ok a => accepted a
    | .error (.policy e) => rejected e
    | .error (.refused rs) => escape (.refused rs)
    | .error .overlong => escape .overlong
  { outcome with warnings := c.warnings }

end Outcome

/-! ### Commands -/

/-- The settings of a compilation: a trial replaces the repository, whatever the
    settings say. -/
def CompileRequest.settings (r : CompileRequest) (s : Settings) : Settings :=
  if r.trial || r.trialRepo.any (· != "") then
    { s with trialMode := true, trialRepo := r.trialRepo.map Text.ofString }
  else s

def withDocument (readers : Readers) (fs : Files) (file : String) (next : Document → Outcome) :
    Outcome :=
  let path := Path.ofText file
  match Frontmatter.loadDocument readers fs path with
  | .ok doc => next doc
  | .error f => Outcome.unloaded path f

def withFrontmatter (readers : Readers) (fs : Files) (file : String)
    (next : Mapping → Outcome) : Outcome :=
  withDocument readers fs file fun doc => next doc.entries

def policyJson (p : Policy) : Outcome :=
  match Json.fault? p.toData with
  | none => .done [some (Json.indented p.toData)]
  | some f => .escape (.output f)

def runCompile (readers : Readers) (fs : Files) (s : Settings) (r : CompileRequest) : Outcome :=
  withDocument readers fs r.file fun doc =>
    Outcome.ofCheck (Policy.compile (r.settings s) r.strict doc.entries)
      (fun p => if r.json then policyJson p else .done (p.summary (p.groupsIn doc)))
      (fun e => .failed e.message)

def runCheck (readers : Readers) (fs : Files) (s : Settings) (r : CheckRequest) : Outcome :=
  withFrontmatter readers fs r.file fun m =>
    Outcome.ofCheck (Workflow.validate s r.strict m)
      (fun _ => .done [some (if r.json then Json.compact validData else "VALID")])
      (fun e => .refusedWith
        (if r.json then [some (Json.indented e.toData)] else [some "INVALID", some e.message]))

def toolsetsNamed (names : List Text) : List Toolset :=
  names.filterMap (Toolset.find? Toolset.builtIn)

def showToolsets (r : ToolsetsRequest) (names : List Text) : Outcome :=
  let ts := toolsetsNamed names
  .done ((if r.json then [Text.ofString (Json.indented (.list (ts.map Toolset.toData)))]
    else Toolset.listing r.readOnly ts).map some)

def runToolsets (readers : Readers) (fs : Files) (r : ToolsetsRequest) : Outcome :=
  let candidates := if r.all then Toolset.builtIn.map (·.name) else Toolset.defaultNames
  match r.permissionsFile with
  | none => showToolsets r candidates
  | some file =>
    withFrontmatter readers fs file fun m =>
      Outcome.ofCheck (Permissions.read (m.value "permissions"))
        (fun p => showToolsets r (Toolset.compatible Toolset.builtIn p r.readOnly candidates))
        (fun e => .failed e.message)

def Request.run (readers : Readers) (fs : Files) (s : Settings) (i : Invocation) :
    Request → Outcome
  | .compile r => runCompile readers fs s r
  | .check r => runCheck readers fs s r
  | .toolsets r => runToolsets readers fs r
  | .help => .help i

/-! ### The program -/

/-- Only the warnings that the logger lets pass are left. -/
def Outcome.logged (l : Logger) (o : Outcome) : Outcome :=
  { o with
    warnings := o.warnings.filter fun w => l.passes ⟨Logger.name, .warning, w⟩
    logger := l }

def runCommand (readers : Readers) (fs : Files) (s : Settings) (i : Invocation) (c : Command)
    (args : List String) : Outcome :=
  match c.read fs args with
  | .ok r => r.run readers fs s i
  | .error fault => .misused i fault

def runAlone (readers : Readers) (fs : Files) (c : Command) (args : List String) : Outcome :=
  (runCommand readers fs {} (.alone c) c args).logged {}

def runLoaded (readers : Readers) (fs : Files) (p : ProgramRequest) (c : Command)
    (args : List String) : Outcome :=
  match (Settings.load readers fs p.config [] false).2 with
  | .error f => .unsettled f
  | .ok s =>
    match Logger.setup s.logging p.verbose fs with
    | .error e => .escape (.logFile e)
    | .ok (fs, l) => (runCommand readers fs s (.command c) c args).logged l

/-- Run the program with its arguments.  Without any it explains itself. -/
def run (readers : Readers) (fs : Files) (args : List String) : Outcome :=
  if args.isEmpty then .help .program
  else
    match ProgramRequest.read fs args with
    | .error fault => .misused .program fault
    | .ok p =>
      if p.help then .help .program
      else
        match p.command fs with
        | .error fault => .misused .program fault
        | .ok (c, args) => runLoaded readers fs p c args

end WorkflowPolicy.CommandLine
