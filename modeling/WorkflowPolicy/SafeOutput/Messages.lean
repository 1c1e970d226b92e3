/-
  WorkflowPolicy/SafeOutput/Messages.lean
  =======================================
  **Message templates.**  An author may replace the texts that the jobs post.  A
  template stands under a hyphenated key in frontmatter and under a key in one
  word where the runtime scripts read it.
-/
import WorkflowPolicy.Data.Shape
import WorkflowPolicy.Schema
import WorkflowPolicy.Text.LetterCase

namespace WorkflowPolicy.SafeOutput

structure Messages where
  footer : Option Text := none
  footerInstall : Option Text := none
  stagedTitle : Option Text := none
  stagedDescription : Option Text := none
  runStarted : Option Text := none
  runSuccess : Option Text := none
  runFailure : Option Text := none
deriving DecidableEq, Repr

namespace Messages

def rows (m : Messages) : List (Text × Option Text) :=
  [("footer", m.footer), ("footer_install", m.footerInstall), ("staged_title", m.stagedTitle),
   ("staged_description", m.stagedDescription), ("run_started", m.runStarted),
   ("run_success", m.runSuccess), ("run_failure", m.runFailure)]

def keyOf (name : Text) : Text := name.replaced '_' '-'

/-- The text of a template: under its key, else under its name.  What is no text
    does not count. -/
def textOf? (m : Mapping) (name : Text) : Option Text :=
  ((m.get? (keyOf name)).bind Data.text?).or ((m.get? name).bind Data.text?)

def ofMapping (m : Mapping) : Messages :=
  { footer := textOf? m "footer"
    footerInstall := textOf? m "footer_install"
    stagedTitle := textOf? m "staged_title"
    stagedDescription := textOf? m "staged_description"
    runStarted := textOf? m "run_started"
    runSuccess := textOf? m "run_success"
    runFailure := textOf? m "run_failure" }

def ofData? : Data → Option Messages
  | .map m => some (ofMapping m)
  | _ => none

def ofRecord : Schema Messages := Schema.model fun m => .accepted (ofMapping m)

/-- The templates that are set, under the given form of their names. -/
def written (form : Text → Text) (m : Messages) : Fields Text :=
  m.rows.filterMap fun r => r.2.map (form r.1, ·)

/-- The templates as an author would write them. -/
def toFields (m : Messages) : Fields Text := m.written keyOf

/-- The templates as the runtime scripts read them. -/
def scriptFields (m : Messages) : Fields Text := m.written Text.camelCase

end Messages

end WorkflowPolicy.SafeOutput
