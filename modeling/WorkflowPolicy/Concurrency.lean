/-
  WorkflowPolicy/Concurrency.lean
  ===============================
  **Concurrency groups.**  Runs of one group wait for each other.  An author's own
  block is passed through as it is; otherwise the group follows from what starts
  the workflow.

  Runs for pull requests cancel the ones they supersede, except under a command
  trigger, which instead adds the number of the issue or pull request to the
  group.  A job of its own group is needed only where no other trigger binds the
  run.
-/
import WorkflowPolicy.Failure
import WorkflowPolicy.Trigger
import WorkflowPolicy.Yaml.Writer

namespace WorkflowPolicy

structure Concurrency where
  group : Text
  cancelInProgress : Bool := false
  /-- The author's own block, which stands for the group wherever it is written. -/
  block : Option Mapping := none
deriving DecidableEq, Repr

namespace Concurrency

def groupStart : Text := "gh-aw"

def workflowKey : Text := "$\x7b\x7b github.workflow \x7d\x7d"

/-- The number of the issue or pull request that a run is for. -/
def entityKey : Text :=
  "$\x7b\x7b github.event.issue.number || github.event.pull_request.number \x7d\x7d"

/-! ### The author's own block -/

/-- The group of an author's block: a text names it, a mapping carries it.  An empty
    block is none. -/
def explicit? : Data → Option Concurrency
  | .text s => if s = "" then none else some { group := s, block := some [("group", s)] }
  | .map [] => none
  | .map es =>
    let m : Mapping := es
    some
      { group := match m.value "group" with
          | .null => ""
          | d => d.display
        cancelInProgress := m.value "cancel-in-progress" == .bool true
        block := some m }
  | _ => none

/-- Whether the group of an author's block is too long to be put into text. -/
def isOverlong : Data → Bool
  | .map es => !(Mapping.value es "group").isShowable
  | _ => false

/-! ### Groups that follow from the trigger -/

/-- The group of a workflow that declares none. -/
def implied (on : Data) (isCommand : Bool) : Concurrency :=
  { group := Text.intercalate "-"
      ([groupStart, workflowKey] ++ if isCommand then [entityKey] else [])
    cancelInProgress := !isCommand && Trigger.isPullRequest on }

def ofWorkflow (on : Data) (isCommand : Bool) (explicit : Data) : Concurrency :=
  (explicit? explicit).getD (implied on isCommand)

/-- The group of the agent's job: the engine's own, or one per engine where nothing
    binds the run. -/
def ofJob (on : Data) (isCommand : Bool) (engine : Option Text) (explicit : Data) :
    Option Concurrency :=
  match explicit? explicit with
  | some c => some c
  | none =>
    if isCommand || Trigger.isBound on then none
    else
      match engine with
      | none => none
      | some e =>
        if e = "" then none else some { group := groupStart ++ "-" ++ e ++ "-" ++ workflowKey }

/-! ### Numbers that are too long -/

/-- Whether a group puts a number into text that is too long: the group of the author's
    block, or an event where neither a block nor a command makes them unnecessary. -/
def isOverlongFor (on : Data) (isCommand : Bool) (explicit : Data) : Bool :=
  isOverlong explicit || (explicit? explicit).isNone && !isCommand && Trigger.isOverlong on

def build (on : Data) (isCommand : Bool) (explicit : Data) : Check Concurrency := do
  Check.unlessOverlong (isOverlongFor on isCommand explicit)
  return ofWorkflow on isCommand explicit

def buildJob (on : Data) (isCommand : Bool) (engine : Option Text) (explicit : Data) :
    Check (Option Concurrency) := do
  Check.unlessOverlong (isOverlongFor on isCommand explicit)
  return ofJob on isCommand engine explicit

/-! ### Written forms -/

/-- The group as data: an author's block unchanged, else both settings. -/
def toData (c : Concurrency) : Data :=
  match c.block with
  | some m => .map m
  | none => .ofFields [("group", c.group), ("cancel-in-progress", .bool c.cancelInProgress)]

/-- What the block of a workflow file holds: cancellation is written only when it
    is on. -/
def fileEntries (c : Concurrency) : Mapping :=
  match c.block with
  | some m => m
  | none =>
    [(.text "group", .text c.group)]
      ++ if c.cancelInProgress then [(.text "cancel-in-progress", .bool true)] else []

def blockText (block : Yaml.Tree) : String :=
  Yaml.writeTree (.map none false [(.text "concurrency", block)])

def fileText (c : Concurrency) : String := blockText (.ofData (.map c.fileEntries))

/-- Whether the block of a workflow file can be written. -/
def isWritable (c : Concurrency) : Bool := (Data.map c.fileEntries).isShowable

end Concurrency

end WorkflowPolicy
