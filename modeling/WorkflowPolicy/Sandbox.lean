/-
  WorkflowPolicy/Sandbox.lean
  ===========================
  **The sandbox of a workflow.**  The agent process runs in an agent sandbox, and
  tool servers are reached through a gateway container.  Older workflows name a
  sandbox type at the top instead of an agent.

  Asking for no sandbox (`false`, or `agent: false`) is kept as a disabled agent,
  so that validation can refuse it; asking for one with `true` says nothing.
  `Sandbox.ofData` reads what an author wrote, `Sandbox.toData` renders it.
-/
import WorkflowPolicy.Firewall

namespace WorkflowPolicy

structure Agent where
  id : Text := ""
  type : Text := ""
  disabled : Bool := false
  command : Text := ""
  args : List Text := []
  env : Fields Text := []
  mounts : List Text := []
  config : Option (Fields Data) := none
deriving DecidableEq, Repr

structure Gateway where
  container : Text := ""
  version : Text := ""
  entrypoint : Text := ""
  port : Option Int := none
  apiKey : Text := ""
  domain : Text := ""
  args : List Text := []
  entrypointArgs : List Text := []
  env : Fields Text := []
  mounts : List Text := []
  payloadDir : Text := ""
deriving DecidableEq, Repr

structure Sandbox where
  agent : Option Agent := none
  gateway : Option Gateway := none
  /-- The sandbox type of older workflows; empty when there is none. -/
  type : Text := ""
  config : Option (Fields Data) := none
deriving DecidableEq, Repr

def supportedSandboxTypes : List Text := ["awf", "default"]

/-- The retired types, which stand for the default one. -/
def retiredSandboxTypes : List Text := ["srt", "sandbox-runtime"]

def defaultSandboxType : Text := "awf"

/-- Whether the environment in a mapping of options has a key that is too long. -/
def Data.envIsOverlong : Data → Bool
  | .map es => (Mapping.value es "env").hasLongKey
  | _ => false

/-! ### Agents -/

namespace Agent

def off : Agent := { disabled := true }

def standard : Agent := { type := defaultSandboxType }

/-- The sandbox type in effect: the identifier, else the type. -/
def kind (a : Agent) : Text := if a.id = "" then a.type else a.id

/-- A disabled agent carries no sandbox settings. -/
def isBare (a : Agent) : Bool :=
  a.id == "" && a.type == "" && a.command == "" && a.args.isEmpty && a.env.isEmpty
    && a.mounts.isEmpty

/-- A mapping as an agent or sandbox carries it: all keys have to be texts. -/
def settings : Data → Verdict (Option (Fields Data))
  | .map es => (some <$> Schema.fields Schema.any (.map es)).within (.name "config")
  | _ => .accepted none

/-- The text under a key, empty when there is none. -/
def textAt (m : Mapping) (key : Text) : Text := ((m.value key).text?).getD ""

def textsAt (m : Mapping) (key : Text) : List Text := ((m.value key).texts?).getD []

def envAt (m : Mapping) (key : Text) : Fields Text := ((m.value key).textMap?).getD []

/-- The agent that a frontmatter value asks for: a supported type by name, or a
    mapping of options. -/
def ofData : Data → Verdict (Option Agent)
  | .text s => .accepted (if s ∈ supportedSandboxTypes then some { type := s } else none)
  | .map es =>
    let m : Mapping := es
    (settings (m.value "config")).map fun config =>
      some
        { id := textAt m "id"
          type := textAt m "type"
          command := textAt m "command"
          args := textsAt m "args"
          env := envAt m "env"
          mounts := textsAt m "mounts"
          config := config }
  | _ => .accepted none

/-- The frontmatter value of an agent: false when it is disabled. -/
def toData (a : Agent) : Data :=
  if a.disabled then .bool false
  else
    .ofFields
      (Firewall.entry (a.id ≠ "") "id" a.id
        ++ Firewall.entry (a.type ≠ "") "type" a.type
        ++ Firewall.entry (a.command ≠ "") "command" a.command
        ++ Firewall.entry (a.args ≠ []) "args" (.ofTexts a.args)
        ++ Firewall.entry (a.env ≠ []) "env" (.ofTextFields a.env)
        ++ Firewall.entry (a.mounts ≠ []) "mounts" (.ofTexts a.mounts)
        ++ match a.config with
          | some c => [("config", .ofFields c)]
          | none => [])

/-- An agent given field by field; a disabled one may not carry settings. -/
def ofRecord : Schema Agent := fun d =>
  (Schema.model (fun m => Agent.mk
    <$> Schema.field m "id" "" Schema.text
    <*> Schema.field m "type" "" Schema.text
    <*> Schema.field m "disabled" false Schema.flag
    <*> Schema.field m "command" "" Schema.text
    <*> Schema.field m "args" [] (Schema.list Schema.text)
    <*> Schema.field m "env" [] (Schema.fields Schema.text)
    <*> Schema.field m "mounts" [] (Schema.list Schema.text)
    <*> Schema.field m "config" none (Schema.optional (Schema.fields Schema.any))) d).andThen
  fun a => if a.disabled && !a.isBare then .refuse .ruleBroken else .accepted a

end Agent

/-! ### Gateways -/

namespace Gateway

open Agent (textAt textsAt envAt)

def ofData? : Data → Option Gateway
  | .map es =>
    let m : Mapping := es
    some
      { container := textAt m "container"
        version := textAt m "version"
        entrypoint := textAt m "entrypoint"
        port := (m.value "port").number?
        apiKey := textAt m "api-key"
        domain := textAt m "domain"
        args := textsAt m "args"
        entrypointArgs := textsAt m "entrypointArgs"
        env := envAt m "env"
        mounts := textsAt m "mounts"
        payloadDir := textAt m "payloadDir" }
  | _ => none

/-- The frontmatter value of a gateway; a port of zero is a port. -/
def toData (g : Gateway) : Data :=
  .ofFields
    (Firewall.entry (g.container ≠ "") "container" g.container
      ++ Firewall.entry (g.version ≠ "") "version" g.version
      ++ Firewall.entry (g.entrypoint ≠ "") "entrypoint" g.entrypoint
      ++ (match g.port with
        | some n => [("port", .int n)]
        | none => [])
      ++ Firewall.entry (g.apiKey ≠ "") "api-key" g.apiKey
      ++ Firewall.entry (g.domain ≠ "") "domain" g.domain
      ++ Firewall.entry (g.args ≠ []) "args" (.ofTexts g.args)
      ++ Firewall.entry (g.entrypointArgs ≠ []) "entrypointArgs" (.ofTexts g.entrypointArgs)
      ++ Firewall.entry (g.env ≠ []) "env" (.ofTextFields g.env)
      ++ Firewall.entry (g.mounts ≠ []) "mounts" (.ofTexts g.mounts)
      ++ Firewall.entry (g.payloadDir ≠ "") "payloadDir" g.payloadDir)

def ofRecord : Schema Gateway :=
  Schema.model fun m => Gateway.mk
    <$> Schema.field m "container" "" Schema.text
    <*> Schema.field m "version" "" Schema.text
    <*> Schema.field m "entrypoint" "" Schema.text
    <*> Schema.field m "port" none (Schema.optional Schema.integer)
    <*> Schema.field m "api_key" "" Schema.text
    <*> Schema.field m "domain" "" Schema.text
    <*> Schema.field m "args" [] (Schema.list Schema.text)
    <*> Schema.field m "entrypoint_args" [] (Schema.list Schema.text)
    <*> Schema.field m "env" [] (Schema.fields Schema.text)
    <*> Schema.field m "mounts" [] (Schema.list Schema.text)
    <*> Schema.field m "payload_dir" "" Schema.text

end Gateway

/-! ### Sandboxes -/

namespace Sandbox

def agentDisabled (s : Sandbox) : Bool := s.agent.any (·.disabled)

def off : Sandbox := { agent := some Agent.off }

/-- A sandbox mapping whose agent is not `false`.  An agent leaves no room for the
    type and settings of older workflows. -/
def ofMapping (m : Mapping) : Verdict (Option Sandbox) :=
  let gateway := (m.get? "mcp").bind Gateway.ofData?
  (Agent.ofData (m.value "agent")).andThen fun
    | some a => .accepted (some { agent := some a, gateway := gateway })
    | none =>
      (Agent.settings (m.value "config")).map fun config =>
        some { gateway := gateway, type := Agent.textAt m "type", config := config }

def ofData : Data → Verdict (Option Sandbox)
  | .bool b => .accepted (if b then none else some off)
  | .text s => .accepted (if s ∈ supportedSandboxTypes then some { type := s } else none)
  | .map es =>
    let m : Mapping := es
    if m.get? "agent" = some (.bool false) then .accepted (some off) else ofMapping m
  | _ => .accepted none

def ofFrontmatter (m : Mapping) : Verdict (Option Sandbox) := ofData (m.value "sandbox")

/-- Whether reading a sandbox meets a key of an environment that is too long: of the
    agent's, or of the gateway's unless the settings of the agent are refused first. -/
def isOverlong : Data → Bool
  | .map es =>
    let agent := Mapping.value es "agent"
    agent != .bool false
      && (agent.envIsOverlong
        || (Agent.ofData agent).toOption.isSome && (Mapping.value es "mcp").envIsOverlong)
  | _ => false

/-- The sandbox of a frontmatter, as the compiler reads it. -/
def read (m : Mapping) : Check (Option Sandbox) := do
  Check.unlessOverlong (isOverlong (m.value "sandbox"))
  Check.ofVerdict (ofFrontmatter m)

def toData (s : Sandbox) : Data :=
  .ofFields
    ((match s.agent with
      | some a => [("agent", a.toData)]
      | none => [])
    ++ (match s.gateway with
      | some g => [("mcp", g.toData)]
      | none => [])
    ++ Firewall.entry (s.type ≠ "") "type" s.type
    ++ match s.config with
      | some c => [("config", .ofFields c)]
      | none => [])

def ofRecord : Schema Sandbox :=
  Schema.model fun m => Sandbox.mk
    <$> Schema.field m "agent" none (Schema.optional Agent.ofRecord)
    <*> Schema.field m "mcp" none (Schema.optional Gateway.ofRecord)
    <*> Schema.field m "type" "" Schema.text
    <*> Schema.field m "config" none (Schema.optional (Schema.fields Schema.any))

end Sandbox

end WorkflowPolicy
