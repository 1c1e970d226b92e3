/-
  WorkflowPolicy/CommandLine/Command.lean
  =======================================
  **What the command line can ask for.**  The program takes options of its own, a
  command, and the arguments of the command.  A command is read only after the
  settings were loaded, so its faults come later than those of the program.

  A file that an argument names has to exist when the argument is read.
-/
import WorkflowPolicy.CommandLine.Arguments
import WorkflowPolicy.Files
import WorkflowPolicy.Settings

namespace WorkflowPolicy.CommandLine

/-! ### Places -/

/-- Whether a text can only name a directory. -/
def namesDirectory (text : String) : Bool :=
  match (Text.splitString '/' text).getLast? with
  | some last => last == "" || last == "."
  | none => true

def isFile (fs : Files) (text : String) : Bool :=
  !namesDirectory text && fs.isFile (Path.ofText text)

def isDirectory (fs : Files) (text : String) : Bool :=
  text != "" && fs.isDirectory (Path.ofText text)

def checkFile (fs : Files) (argument text : String) : Except UsageFault Unit :=
  if isUnnameable text then .error (.place argument "File" text .unnameable)
  else if isFile fs text then .ok ()
  else
    .error (.place argument "File" text (if isDirectory fs text then .isDirectory else .missing))

def checkPlace (fs : Files) (argument text : String) : Except UsageFault Unit :=
  if isUnnameable text then .error (.place argument "Path" text .unnameable)
  else if isFile fs text || isDirectory fs text then .ok ()
  else .error (.place argument "Path" text .missing)

/-! ### Requests -/

structure CompileRequest where
  file : String
  /-- Strict mode on or off, whatever the workflow says. -/
  strict : Option Bool
  trial : Bool
  trialRepo : Option String
  json : Bool
deriving DecidableEq, Repr

structure CheckRequest where
  file : String
  strict : Option Bool
  json : Bool
deriving DecidableEq, Repr

structure ToolsetsRequest where
  /-- The workflow whose permissions select the toolsets. -/
  permissionsFile : Option String
  readOnly : Bool
  all : Bool
  json : Bool
deriving DecidableEq, Repr

inductive Request where
  | compile (r : CompileRequest)
  | check (r : CheckRequest)
  | toolsets (r : ToolsetsRequest)
  | help
deriving DecidableEq, Repr

/-! ### Grammars -/

inductive Command where
  | compile
  | check
  | toolsets
deriving DecidableEq, Repr

def fileArgument : String := "FILE"

namespace Command

def name : Command → String
  | .compile => "compile"
  | .check => "check"
  | .toolsets => "toolsets"

def all : List Command := [compile, check, toolsets]

def ofName? (s : String) : Option Command := all.find? (·.name == s)

def closeNames (word : String) : List String := Text.closeMatches word (all.map name)

/-- What follows the name of the command in its usage. -/
def synopsis : Command → String
  | .compile | .check => "[OPTIONS] " ++ fileArgument
  | .toolsets => "[OPTIONS]"

def grammar : Command → Grammar
  | .compile =>
    { options := [⟨"--strict", false⟩, ⟨"--no-strict", false⟩, ⟨"--trial", false⟩,
        ⟨"--trial-repo", true⟩, ⟨"--json", false⟩, ⟨"--help", false⟩] }
  | .check =>
    { options := [⟨"--strict", false⟩, ⟨"--no-strict", false⟩, ⟨"--json", false⟩,
        ⟨"--help", false⟩] }
  | .toolsets =>
    { options := [⟨"--permissions-file", true⟩, ⟨"--read-only", false⟩, ⟨"--all", false⟩,
        ⟨"--json", false⟩, ⟨"--help", false⟩] }

end Command

/-! ### Reading a command -/

def noMore : List String → Except UsageFault Unit
  | [] => .ok ()
  | args => .error (.extraArguments args)

def onlyFile (fs : Files) : List String → Except UsageFault String
  | [] => .error (.missingArgument fileArgument)
  | file :: rest => do
    checkFile fs fileArgument file
    noMore rest
    return file

def Command.request (fs : Files) (c : Command) (a : Arguments) : Except UsageFault Request :=
  let strict := a.choice? "--strict" "--no-strict"
  let json := a.has "--json"
  match c with
  | .compile => do
    let file ← onlyFile fs a.others
    return .compile ⟨file, strict, a.has "--trial", a.value? "--trial-repo", json⟩
  | .check => do
    let file ← onlyFile fs a.others
    return .check ⟨file, strict, json⟩
  | .toolsets => do
    let file := a.value? "--permissions-file"
    file.forM (checkFile fs "--permissions-file")
    noMore a.others
    return .toolsets ⟨file, a.has "--read-only", a.has "--all", json⟩

/-- Read the arguments of a command.  A request for help comes before every other fault
    than an unreadable option. -/
def Command.read (fs : Files) (c : Command) (args : List String) : Except UsageFault Request := do
  let a ← Arguments.ofList c.grammar args
  if a.has "--help" then return .help else c.request fs a

/-! ### Reading the options of the program -/

structure ProgramRequest where
  config : Option String
  verbose : Bool
  help : Bool
  /-- The command and its arguments. -/
  rest : List String
deriving DecidableEq, Repr

def programGrammar : Grammar :=
  { options := [⟨"--config", true⟩, ⟨"--verbose", false⟩, ⟨"-v", false⟩, ⟨"--help", false⟩]
    mixed := false }

/-- Read the arguments up to the command. -/
def ProgramRequest.read (fs : Files) (args : List String) : Except UsageFault ProgramRequest := do
  let a ← Arguments.ofList programGrammar args
  let config := a.value? "--config"
  let help := a.has "--help"
  if !help then config.forM (checkPlace fs "--config")
  return ⟨config, a.has "--verbose" || a.has "-v", help, a.others⟩

def ProgramRequest.command (fs : Files) (r : ProgramRequest) :
    Except UsageFault (Command × List String) :=
  match r.rest with
  | [] => .error .missingCommand
  | name :: args =>
    match Command.ofName? name with
    | some c => .ok (c, args)
    | none => do
      -- A name that looks like an option is read as one first.
      let _ ← ProgramRequest.read fs r.rest
      .error (.unknownCommand name (Command.closeNames name))

end WorkflowPolicy.CommandLine
