/-
  WorkflowPolicy/SafeOutput/Plan.lean
  ===================================
  **The execution plan of safe outputs.**  The actions of a block are handed to two
  handlers, one for projects and one for everything else, each with one entry per
  action.  A few variables tell the job what to do; they are added to the author's
  own environment and win over it.

  Staging is signalled when an action is staged by itself or by the block, but
  never in trial mode and never for an action that writes to another repository.
-/
import WorkflowPolicy.Json.Writer
import WorkflowPolicy.SafeOutput.Block

namespace WorkflowPolicy.SafeOutput

structure Plan where
  env : Fields Text := []
  handlerConfig : Fields Data := []
  projectHandlerConfig : Fields Data := []
  staged : Bool := false
  assignCopilot : Bool := false
deriving DecidableEq

namespace Plan

/-! ### Variables -/

def stagedVariable : Text := "GH_AW_SAFE_OUTPUTS_STAGED"

def assignCopilotVariable : Text := "GH_AW_ASSIGN_COPILOT"

def handlerVariable : Text := "GH_AW_SAFE_OUTPUTS_HANDLER_CONFIG"

def projectHandlerVariable : Text := "GH_AW_SAFE_OUTPUTS_PROJECT_HANDLER_CONFIG"

/-- The value of a variable that only says that something is so. -/
def on : Text := "true"

def messagesVariable : Text := "GH_AW_SAFE_OUTPUT_MESSAGES"

/-! ### Signals -/

/-- Whether staging takes effect for an action of a block. -/
def isStaged (trial : Bool) (b : Block) (a : Action) : Bool :=
  !trial && (a.targetRepo?.getD "").isEmpty && (b.staged || a.staged)

def copilot : Text := "copilot"

def namesCopilot (assignees : List Text) : Bool := assignees.contains copilot

/-- Whether an action creates issues that are assigned to the coding agent. -/
def assignsCopilot (a : Action) : Bool :=
  a.kind == .createIssue
    && namesCopilot (((a.setting? "assignees").bind Setting.texts?).getD [])

/-! ### Payloads -/

def entriesFor (p : Action → Bool) (actions : List Action) : Fields Data :=
  (actions.filter p).map fun a => (a.kind.handlerName, a.handlerConfig)

def payloadText (payload : Fields Data) : Text := Json.compactSorted (.ofFields payload)

/-- The variables that the compiler adds, in order. -/
def signals (staged assigned : Bool) (handlers projectHandlers : Fields Data)
    (messages : Fields Text) : List (Text × Text) :=
  (if staged then [(stagedVariable, on)] else [])
    ++ (if assigned then [(assignCopilotVariable, on)] else [])
    ++ (if handlers.isEmpty then [] else [(handlerVariable, payloadText handlers)])
    ++ (if projectHandlers.isEmpty then []
      else [(projectHandlerVariable, payloadText projectHandlers)])
    ++ if messages.isEmpty then []
      else [(messagesVariable, Text.ofString (Json.compactSorted (.ofTextFields messages)))]

def ofBlock (trial : Bool) (b : Block) : Plan :=
  let staged := b.actions.any (isStaged trial b)
  let assigned := b.actions.any assignsCopilot
  let handlers := entriesFor (!·.kind.isProject) b.actions
  let projectHandlers := entriesFor (·.kind.isProject) b.actions
  let messages := (b.messages.map Messages.scriptFields).getD []
  { env := Assoc.insertAll id b.env (signals staged assigned handlers projectHandlers messages)
    handlerConfig := handlers
    projectHandlerConfig := projectHandlers
    staged := staged
    assignCopilot := assigned }

/-- The plan of a workflow, which is empty without safe outputs. -/
def compile (trial : Bool) (b : Option Block) : Plan := (b.map (ofBlock trial)).getD {}

/-- Whether a payload of a plan holds a number that is too long for its text. -/
def isOverlong (p : Plan) : Bool :=
  (Json.fault? (.ofFields p.handlerConfig)).isSome
    || (Json.fault? (.ofFields p.projectHandlerConfig)).isSome

/-- The plan of a workflow, if its payloads can be written. -/
def build (trial : Bool) (b : Option Block) : Check Plan := do
  Check.unlessOverlong (compile trial b).isOverlong
  return compile trial b

/-! ### Written forms -/

/-- The environment as lines of a job step, indented and with quoted values. -/
def envLines (p : Plan) (indent : Nat) : List Text :=
  p.env.map fun e =>
    Text.ofChars (List.replicate indent ' ') ++ e.1 ++ ": " ++ Json.encode e.2

def toData (p : Plan) : Data :=
  .ofFields
    [("env", .ofTextFields p.env),
     ("handler_config", .ofFields p.handlerConfig),
     ("project_handler_config", .ofFields p.projectHandlerConfig),
     ("staged", .bool p.staged),
     ("assign_copilot", .bool p.assignCopilot)]

end Plan

end WorkflowPolicy.SafeOutput
