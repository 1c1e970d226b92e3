/-
  WorkflowPolicy/Trigger.lean
  ===========================
  **What starts a workflow.**  A trigger block is an event name, a list of event
  names or a mapping from event names to options; all three spellings name the
  same events.  A command trigger stands in a mapping under one of two keys and
  may give the command a name.
-/
import WorkflowPolicy.Data.Display

namespace WorkflowPolicy.Trigger

def eventText? : Data → Option Text
  | .text s => some s
  | _ => none

def events : Data → List Text
  | .text s => [s]
  | .list xs => xs.filterMap eventText?
  | .map es => es.map (·.1.display)
  | _ => []

/-- Whether an event of a mapping is too long to be put into text. -/
def isOverlong : Data → Bool
  | .map es => es.any (!·.1.isShowable)
  | _ => false

/-! ### Commands -/

def commandKeys : List Text := ["command", "slash_command"]

/-- The names that a command trigger gives; a command without a name has the empty
    one. -/
def namesOf (value : Data) : List Text :=
  let given := match value with
    | .map es => Mapping.value es "name"
    | d => d
  let found := match given with
    | .text s => [s]
    | .list xs => xs.filterMap eventText?
    | _ => []
  if found.isEmpty then [""] else found

/-- The command names of a trigger block.  A present command key always yields at
    least one. -/
def commandNames : Data → List Text
  | .map es =>
    commandKeys.flatMap fun (key : Text) =>
      match Mapping.get? es key with
      | some value => namesOf value
      | none => []
  | _ => []

/-! ### Kinds of workflows -/

def isPullRequest (on : Data) : Bool := (events on).any (("pull_request" : Text).isPrefixOf ·)

def isIssue (on : Data) : Bool :=
  (events on).any fun e => e == "issues" || e == "issue_comment"

def isDiscussion (on : Data) : Bool := (events on).any (("discussion" : Text).isPrefixOf ·)

def isPush (on : Data) : Bool := (events on).contains "push"

def isBound (on : Data) : Bool := isIssue on || isPullRequest on || isDiscussion on || isPush on

end WorkflowPolicy.Trigger
