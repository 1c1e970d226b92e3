/-
  WorkflowPolicy/Sandbox/Defaults.lean
  ====================================
  **Sandboxes made ready to run.**  Three passes turn what an author asked for
  into what runs: retired types become the default type, network restrictions
  call for an agent, and an empty request gets one.  No pass overrides a choice
  that the author made.

  `checkTypes` refuses disabled agents and unknown types; it runs after the
  retired types are gone.
-/
import WorkflowPolicy.Network
import WorkflowPolicy.Sandbox

namespace WorkflowPolicy

/-! ### Retired types -/

/-- A sandbox type with retired ones replaced. -/
def currentType (type : Text) : Text :=
  if type ∈ retiredSandboxTypes then defaultSandboxType else type

/-- An agent with retired types replaced; a disabled agent stays as it is. -/
def Agent.migrate (a : Agent) : Agent :=
  if a.disabled then a else { a with id := currentType a.id, type := currentType a.type }

namespace Sandbox

def migrate (s : Sandbox) : Sandbox :=
  { s with type := currentType s.type, agent := s.agent.map Agent.migrate }

/-! ### Defaults -/

/-- The sandbox that runs: without an agent and without a type of its own, the
    standard agent. -/
def withDefaults (request : Option Sandbox) : Sandbox :=
  match request.map migrate with
  | none => { agent := some Agent.standard }
  | some s =>
    if s.agentDisabled || s.type ≠ "" || s.agent.isSome then s
    else { s with agent := some Agent.standard }

/-- Whether network restrictions call for an agent: the engine has a firewall by
    default, a network is declared without the wildcard, and no agent is asked
    for. -/
def wantsFirewall (engine : Option Text) (engines : List Text) (network : Option Network)
    (s : Sandbox) : Bool :=
  engines.contains (engine.getD "") && network.any (!·.allowsEverything) && s.agent.isNone

/-- The standard agent where network restrictions call for one. -/
def withFirewall (engine : Option Text) (engines : List Text) (network : Option Network)
    (s : Sandbox) : Sandbox :=
  if s.wantsFirewall engine engines network then { s with agent := some Agent.standard } else s

/-! ### The firewall of a sandbox -/

/-- The firewall is on when an agent runs that is not disabled. -/
def firewallEnabled (s : Option Sandbox) : Bool :=
  match s.bind (·.agent) with
  | some a => !a.disabled
  | none => false

/-- The firewall settings in effect, when the firewall is on. -/
def effectiveFirewall (s : Option Sandbox) (network : Option Network) : Option Firewall :=
  if firewallEnabled s then some ((network.bind (·.firewall)).getD {}) else none

/-! ### Rules -/

def offViolation : Violation :=
  { field := "sandbox.agent"
    value := "false"
    reason := "disabling the sandbox is no longer supported. The agent always runs inside "
      ++ "the AWF sandbox"
    suggestion := "Remove 'sandbox: false' / 'sandbox.agent: false' and restrict egress with "
      ++ "the top-level 'network' field instead." }

def typeViolation (field type : Text) : Violation :=
  { field := field
    value := type
    reason := "unsupported sandbox type '" ++ type ++ "'"
    suggestion := "Use 'awf' (or 'default')." }

/-- Whether a type is neither absent nor supported. -/
def isUnknownType (type : Text) : Bool := type ≠ "" && !supportedSandboxTypes.contains type

/-- The first rule that a sandbox breaks. -/
def violation? (s : Sandbox) : Option Violation :=
  if s.agentDisabled then some offViolation
  else if s.agent.any (isUnknownType ·.kind) then
    some (typeViolation "sandbox.agent" ((s.agent.map Agent.kind).getD ""))
  else if isUnknownType s.type then some (typeViolation "sandbox.type" s.type)
  else none

/-- The agent is not disabled, and no type is unknown. -/
def checkTypes (s : Option Sandbox) : Check Unit :=
  match s.bind violation? with
  | some v => Check.reject (.invalid v)
  | none => pure ()

end Sandbox

end WorkflowPolicy
