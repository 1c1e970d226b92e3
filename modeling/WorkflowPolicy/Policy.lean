/-
  WorkflowPolicy/Policy.lean
  ==========================
  **From frontmatter to policy.**  Compilation reads the workflow, checks it, fills
  in the defaults and derives what the job needs: the plan of its safe outputs,
  its concurrency groups, its firewall and its toolsets.

  The order of the checks is part of the contract, because the first one that
  fails decides the error: rejected outputs, refused data, sandbox types, firewall
  settings, engine support, strict mode.  Deriving the policy from a workflow that was
  checked fails only for an integer with too many digits.
-/
import WorkflowPolicy.Concurrency
import WorkflowPolicy.SafeOutput.Plan
import WorkflowPolicy.Strict
import WorkflowPolicy.Toolset
import WorkflowPolicy.Workflow

namespace WorkflowPolicy

/-! ### Checking -/

namespace Workflow

def checkFirewall (n : Network) : Check Unit :=
  match n.firewall with
  | none => pure ()
  | some f => do
    f.checkAllowUrls
    Firewall.checkLogLevel f.logLevel

def finalSandbox (settings : Settings) (w : Workflow) : Sandbox :=
  Sandbox.withDefaults
    (some (Sandbox.withFirewall w.engine settings.firewallEngines (some w.network)
      (w.sandbox.getD {})))

def checkStrict (w : Workflow) : Check Unit :=
  if w.strict then Strict.check w.permissions (some w.network) w.tools w.servers else pure ()

/-- Read and check a workflow, and give it the sandbox that it runs in. -/
def validate (settings : Settings) (asked : Option Bool) (m : Mapping) : Check Workflow := do
  let w ← ofFrontmatter settings asked m
  Sandbox.checkTypes w.sandbox
  checkFirewall w.network
  let w := { w with sandbox := some (finalSandbox settings w) }
  Network.checkSupport w.engine w.network w.strict settings.firewallEngineSupport
  checkStrict w
  return w

end Workflow

/-! ### The policy -/

/-- Everything that a job needs from the policy passes. -/
structure Policy where
  workflow : Workflow
  plan : SafeOutput.Plan
  concurrency : Concurrency
  jobConcurrency : Option Concurrency
  firewallEnabled : Bool
  sslBumpArgs : Option (List Text)
  imageTag : Text
  toolsets : List Text
deriving DecidableEq

namespace Policy

def ofWorkflow (settings : Settings) (w : Workflow) : Policy :=
  let firewall := Sandbox.effectiveFirewall w.sandbox (some w.network)
  { workflow := w
    plan := SafeOutput.Plan.compile w.trialMode w.safeOutputs
    concurrency := Concurrency.ofWorkflow w.trigger w.isCommand w.concurrency
    jobConcurrency := Concurrency.ofJob w.trigger w.isCommand w.engine w.engineConcurrency
    firewallEnabled := Sandbox.firewallEnabled w.sandbox
    sslBumpArgs := firewall.bind Firewall.sslBumpArgs
    imageTag := Firewall.imageTagOf firewall settings.defaultFirewallVersion
    toolsets := Toolset.compatible Toolset.builtIn w.permissions
      (Workflow.toolsReadOnly w.tools) Toolset.defaultNames }

/-- Whether a number that goes into the plan or a group is too long for its text. -/
def isOverlong (w : Workflow) : Bool :=
  (SafeOutput.Plan.compile w.trialMode w.safeOutputs).isOverlong
    || Concurrency.isOverlongFor w.trigger w.isCommand w.concurrency
    || Concurrency.isOverlongFor w.trigger w.isCommand w.engineConcurrency

/-- Derive the policy of a workflow.  What goes into its plan and its groups has to fit
    into text. -/
def derive (settings : Settings) (w : Workflow) : Check Policy := do
  let plan ← SafeOutput.Plan.build w.trialMode w.safeOutputs
  let concurrency ← Concurrency.build w.trigger w.isCommand w.concurrency
  let job ← Concurrency.buildJob w.trigger w.isCommand w.engine w.engineConcurrency
  return { ofWorkflow settings w with
    plan := plan, concurrency := concurrency, jobConcurrency := job }

def compile (settings : Settings) (asked : Option Bool) (m : Mapping) : Check Policy := do
  let w ← Workflow.validate settings asked m
  derive settings w

/-! ### Written form -/

def orNull (d : Option Data) : Data := d.getD .null

def firewallData (p : Policy) : Data :=
  .ofFields
    [("enabled", .bool p.firewallEnabled),
     ("image_tag", .text p.imageTag),
     ("ssl_bump_args", orNull (p.sslBumpArgs.map .ofTexts))]

def toFields (p : Policy) : Fields Data :=
  let w := p.workflow
  [("name", .text w.name),
   ("engine", orNull (w.engine.map .text)),
   ("strict", .bool w.strict),
   ("trial_mode", .bool w.trialMode),
   ("permissions", orNull (w.permissions.map Permissions.toData)),
   ("network", w.network.toData),
   ("sandbox", orNull (w.sandbox.map Sandbox.toData)),
   ("safe_outputs_config", orNull (w.safeOutputs.map SafeOutput.Block.toData)),
   ("firewall", p.firewallData),
   ("safe_outputs", p.plan.toData),
   ("concurrency", p.concurrency.toData),
   ("job_concurrency", orNull (p.jobConcurrency.map Concurrency.toData)),
   ("toolsets", .ofTexts p.toolsets)]

def toData (p : Policy) : Data := .ofFields p.toFields

end Policy

end WorkflowPolicy
