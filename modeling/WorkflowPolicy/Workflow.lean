/-
  WorkflowPolicy/Workflow.lean
  ============================
  **A workflow as the compiler sees it.**  The frontmatter of a workflow is read
  into one record: every part that matters for its policy, in its own type.

  Strictness is decided here: what the caller asks for wins over the frontmatter,
  and the frontmatter over the settings.
-/
import WorkflowPolicy.Permissions
import WorkflowPolicy.SafeOutput.Block
import WorkflowPolicy.Sandbox.Defaults
import WorkflowPolicy.Settings
import WorkflowPolicy.Trigger

namespace WorkflowPolicy

open WorkflowPolicy.SafeOutput (Block)

structure Workflow where
  name : Text
  trigger : Data
  permissions : Option Permissions
  network : Network
  sandbox : Option Sandbox
  safeOutputs : Option Block
  engine : Option Text
  engineConcurrency : Data
  /-- The author's concurrency block, as it was written. -/
  concurrency : Data
  tools : Mapping
  servers : Mapping
  strict : Bool
  trialMode : Bool
  trialRepo : Option Text
  commands : List Text
deriving DecidableEq

namespace Workflow

def isCommand (w : Workflow) : Bool := !w.commands.isEmpty

/-! ### Parts of the frontmatter -/

/-- The trigger block.  A bare `on` key may have been read as the boolean. -/
def triggerOf (m : Mapping) : Data :=
  match m.get? "on" with
  | some d => d
  | none => m.value (.bool true)

def defaultEngine : Text := "copilot"

def engineOf : Data → Option Text × Data
  | .null => (some defaultEngine, .null)
  | .text s => (some s, .null)
  | .map es =>
    let m : Mapping := es
    let id := ((m.value "id").text?).getD ""
    (some (if id = "" then defaultEngine else id), m.value "concurrency")
  | _ => (none, .null)

def toolsReadOnly (tools : Mapping) : Bool :=
  match tools.value "github" with
  | .map es => ((Mapping.value es "read-only").flag?).getD false
  | _ => false

def strictness (settings : Settings) (asked : Option Bool) (m : Mapping) : Bool :=
  (asked.or (m.value "strict").flag?).getD settings.strict

def networkOf (m : Mapping) : Network := (Network.ofFrontmatter? m).getD Network.default

def mappingAt (m : Mapping) (key : Text) : Mapping := ((m.value key).entries?).getD []

def textKeys (field : Text) (m : Mapping) : Verdict Mapping :=
  ((fun keys =>
      if m.strangeKeys.isEmpty then m
      else Mapping.ofList ((keys.map Data.text).zip (m.map (·.2))))
    <$> Verdict.all ((m.map (·.1)).map Schema.key)).within (.name field)

/-! ### Reading -/

/-- The first rejected safe output is an error. -/
def checkRejected (rejected : List SafeOutput.Kind) : Check Unit :=
  match rejected with
  | [] => pure ()
  | k :: _ => Check.reject (.safeOutput k.name Block.rejectionReason)

def ofFrontmatter (settings : Settings) (asked : Option Bool) (m : Mapping) :
    Check Workflow := do
  let network ← Network.read m
  let extraction ← Block.read m
  checkRejected extraction.rejected
  let permissions ← Permissions.read (m.value "permissions")
  let sandbox ← Sandbox.read m
  let (tools, servers) ← Check.ofVerdict
    (Prod.mk <$> textKeys "tools" (mappingAt m "tools")
      <*> textKeys "mcp_servers" (mappingAt m "mcp-servers"))
  let trigger := triggerOf m
  let (engine, engineConcurrency) := engineOf (m.value "engine")
  return {
    name := ((m.value "name").text?).getD ""
    trigger := trigger
    permissions := permissions
    network := network.getD Network.default
    sandbox := sandbox.map Sandbox.migrate
    safeOutputs := extraction.block
    engine := engine
    engineConcurrency := engineConcurrency
    concurrency := m.value "concurrency"
    tools := tools
    servers := servers
    strict := strictness settings asked m
    trialMode := settings.trialMode
    trialRepo := settings.trialRepo
    commands := Trigger.commandNames trigger }

end Workflow

end WorkflowPolicy
