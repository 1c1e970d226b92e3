/-
  WorkflowPolicy/CommandLine/Summary.lean
  =======================================
  **What the commands print.**  Every output is a list of texts, each of which is
  printed with a line break behind it; a text may hold line breaks of its own.
-/
import WorkflowPolicy.Data.Document
import WorkflowPolicy.Policy

namespace WorkflowPolicy

def Text.commaList (names : List Text) : Text := Text.intercalate ", " names

/-! ### Policies -/

namespace Policy

def headLines (w : Workflow) : List Text :=
  ["Workflow: " ++ (if w.name = "" then ("<unnamed>" : Text) else w.name),
   "Engine: " ++ (match w.engine with
    | none | some .empty => "-"
    | some e => e),
   "Strict: " ++ (if w.strict then "yes" else "no")]

def networkLines (n : Network) : List Text :=
  if n.deniesAll then ["Network: deny all"]
  else
    ("Network: " ++ Text.commaList n.allowed)
      :: if n.blocked.isEmpty then [] else ["  Blocked: " ++ Text.commaList n.blocked]

def firewallLines (p : Policy) : List Text :=
  if p.firewallEnabled then
    ("Firewall: awf " ++ p.imageTag)
      :: match p.sslBumpArgs with
        | none | some [] => []
        | some args => ["  Args: " ++ Text.intercalate " " args]
  else ["Firewall: off"]

def handlerNames (p : SafeOutput.Plan) : List Text :=
  Fields.keys p.handlerConfig ++ Fields.keys p.projectHandlerConfig

def planLines (p : SafeOutput.Plan) : List Text :=
  let names := handlerNames p
  if names.isEmpty then []
  else
    (("\nSafe outputs (" ++ Decimal.ofInt names.length ++ "):" : Text)
        :: names.map (("  - " : Text) ++ ·))
      ++ (if p.staged then [Text.ofString "  (staged)"] else [])
      ++ ("\nEnvironment:" : Text) :: p.envLines 2

/-- What a summary shows of the concurrency groups: the block of the workflow file, if it
    can be written, and the name of the job's group. -/
structure Groups where
  fileText? : Option String
  job : Option Text
deriving DecidableEq, Repr

/-- A text, unless the block of the workflow file cannot be written. -/
def written? (p : Policy) (text : String) : Option String :=
  if p.concurrency.isWritable then some text else none

/-- The groups of a policy whose frontmatter is the given document.  The author's block
    keeps its anchors, and a name stops where it would go on inside itself. -/
def groupsIn (doc : Document) (p : Policy) : Groups :=
  { fileText? := p.written? (match doc.entriesAt? ["concurrency"] with
      | none | some [] => p.concurrency.fileText
      | some es => Concurrency.blockText (.ofEntriesOf doc es))
    job := p.jobConcurrency.map fun c =>
      match doc.partAt? ["engine", "concurrency", "group"] with
      | some (.shared id) => (doc.outline (.shared id)).display
      | _ => c.group }

def concurrencyLines (g : Groups) : List (Option Text) :=
  g.fileText?.map (fun text : String => ("\n" : Text) ++ Text.stripEnd text)
    :: match g.job with
      | some name => [some ("Agent job group: " ++ name)]
      | none => []

def toolsetLines (p : Policy) : List Text :=
  if p.toolsets.isEmpty then [] else ["GitHub toolsets: " ++ Text.commaList p.toolsets]

/-- The texts of a summary.  One that is missing cannot be written. -/
def summary (p : Policy) (g : Groups) : List (Option Text) :=
  (headLines p.workflow ++ networkLines p.workflow.network ++ firewallLines p
      ++ planLines p.plan).map some
    ++ concurrencyLines g ++ (toolsetLines p).map some

end Policy

/-! ### Verdicts on workflows -/

namespace PolicyError

def kindName : PolicyError → Text
  | .invalid _ => "ValidationError"
  | .strict _ => "StrictModeError"
  | .safeOutput _ _ => "SafeOutputConfigError"
  | .networkSupport _ _ => "NetworkSupportError"

/-- The rule that was broken, for the errors that name one. -/
def violation? : PolicyError → Option Violation
  | .invalid v | .strict v => some v
  | _ => none

end PolicyError

def Violation.toData (v : Violation) : Data :=
  .ofFields
    [("field", .text v.field), ("value", v.value), ("reason", .text v.reason),
     ("suggestion", .text v.suggestion)]

def validData : Data := .ofFields [("valid", .bool true)]

/-- The answer for a workflow that has none. -/
def PolicyError.toData (e : PolicyError) : Data :=
  .ofFields
    (([("valid", .bool false), ("error", .text e.message), ("type", .text e.kindName)] :
        Fields Data)
      ++ match e.violation? with
        | some v => [("details", v.toData)]
        | none => [])

/-! ### Toolsets -/

namespace Toolset

def toData (t : Toolset) : Data :=
  .ofFields
    [("name", .text t.name), ("description", .text t.description),
     ("read", .ofTexts t.read), ("write", .ofTexts t.write)]

/-- A toolset with its scopes; a read-only server shows no scopes that it writes. -/
def lines (readOnly : Bool) (t : Toolset) : List Text :=
  [t.name ++ ": " ++ t.description]
    ++ (if t.read.isEmpty then [] else ["  read:  " ++ Text.commaList t.read])
    ++ (if t.write.isEmpty || readOnly then [] else ["  write: " ++ Text.commaList t.write])

def listing (readOnly : Bool) (ts : List Toolset) : List Text :=
  if ts.isEmpty then ["No compatible toolsets."] else ts.flatMap (lines readOnly)

end Toolset

end WorkflowPolicy
