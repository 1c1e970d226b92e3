/-
  WorkflowPolicy/Strict.lean
  ==========================
  **Strict mode.**  A strict workflow may not write to the repository, may not lift
  the network restrictions, may not keep its cache in the repository, and has to
  restrict the network of every tool server that runs in a container.

  The four reviews run in this order, and the first violation found is reported.
  They only refuse; nothing is changed.
-/
import WorkflowPolicy.Network
import WorkflowPolicy.Permissions

namespace WorkflowPolicy.Strict

/-! ### Permissions -/

/-- The scopes whose write access reaches no repository content. -/
def writableScopes : List Text := ["id-token", "attestations", "actions", "checks"]

def writeAlternatives : Text :=
  "Use 'safe-outputs.create-issue', 'safe-outputs.create-pull-request', "
   ++ "'safe-outputs.add-comment', or 'safe-outputs.update-issue' to perform write "
   ++ "operations safely"

def writeViolation (scope : Text) : Violation :=
  { field := "permissions." ++ scope
    value := "write"
    reason := "strict mode: write permission '" ++ scope ++ ": write' is not allowed for "
      ++ "security reasons. " ++ writeAlternatives
    suggestion := "Declare read permissions and route writes through safe-outputs." }

def forbiddenWrite? (p : Permissions) : Option Text :=
  p.writeScopes.find? fun s => !writableScopes.contains s

def permissionsViolation? (p : Option Permissions) : Option Violation :=
  (p.bind forbiddenWrite?).map writeViolation

/-! ### Network -/

def missingNetworkViolation : Violation :=
  { field := "network"
    value := .null
    reason := "internal error: network permissions not initialized" }

def wildcardViolation : Violation :=
  { field := "network.allowed"
    value := "*"
    reason := "strict mode: wildcard '*' is not allowed in network.allowed domains to "
      ++ "prevent unrestricted internet access"
    suggestion := "List the domains the workflow needs, e.g. 'defaults' or '*.example.com'." }

def networkViolation? : Option Network → Option Violation
  | none => some missingNetworkViolation
  | some n => if n.allowsEverything then some wildcardViolation else none

/-! ### Tools -/

def mapping? : Data → Option Mapping
  | .map es => some es
  | _ => none

/-- The instances of a cache setting: a mapping, or the mappings of a list. -/
def cacheInstances : Data → List Mapping
  | .map es => [es]
  | .list xs => xs.filterMap mapping?
  | _ => []

def keepsInRepo (cache : Mapping) : Bool :=
  cache.get? "scope" == some (.text "repo")

def cacheViolation : Violation :=
  { field := "tools.cache-memory.scope"
    value := "repo"
    reason := "strict mode: cache-memory with 'scope: repo' is not allowed for "
      ++ "security reasons"
    suggestion := "Use 'scope: workflow' (the default)." }

def isOpenServer : Data → Bool
  | .map es => Mapping.contains es "container" && !Mapping.contains es "network"
  | _ => false

def serverViolation (name : Text) : Violation :=
  { field := "mcp-servers." ++ name ++ ".network"
    value := .null
    reason := "strict mode: custom MCP server '" ++ name ++ "' with container must have "
      ++ "top-level network configuration for security"
    suggestion := "Add 'network: \x7ballowed: [...]\x7d' to mcp-servers." ++ name ++ "." }

def toolsViolation? (tools : Mapping) : Option Violation :=
  if (cacheInstances (tools.value "cache-memory")).any keepsInRepo then some cacheViolation
  else none

def serversViolation? (servers : Mapping) : Option Violation :=
  (servers.find? fun e => isOpenServer e.2).map fun e => serverViolation e.1.display

/-! ### The review -/

/-- The first violation, in the order of the reviews. -/
def violation? (p : Option Permissions) (n : Option Network) (tools servers : Mapping) :
    Option Violation :=
  (permissionsViolation? p).or <| (networkViolation? n).or <|
    (toolsViolation? tools).or (serversViolation? servers)

def check (p : Option Permissions) (n : Option Network) (tools servers : Mapping) :
    Check Unit :=
  match violation? p n tools servers with
  | some v => Check.reject (.strict v)
  | none => pure ()

end WorkflowPolicy.Strict
