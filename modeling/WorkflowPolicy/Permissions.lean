/-
  WorkflowPolicy/Permissions.lean
  ===============================
  **Token permissions.**  A workflow grants its token one level for every scope
  by a shorthand, or a level per scope.  `Permissions.get?` is the meaning of a
  permission set: an explicit level wins over the shorthand.

  Parsing drops scopes and levels that are not known, and rendering writes the
  shorthand only when no explicit scope stands beside it.
-/
import WorkflowPolicy.Failure

namespace WorkflowPolicy

/-! ### Levels and scopes -/

inductive Level where
  | read
  | write
  | none
deriving DecidableEq, Repr

namespace Level

def name : Level → Text
  | .read => "read"
  | .write => "write"
  | .none => "none"

def all : List Level := [.read, .write, .none]

def ofName? (s : Text) : Option Level := all.find? (·.name == s)

def choices : List (Text × Level) := all.map fun l => (l.name, l)

/-- The text that grants a level to every scope. -/
def shorthand : Level → Text
  | .read => "read-all"
  | .write => "write-all"
  | .none => "none"

def ofShorthand? (s : Text) : Option Level := all.find? (·.shorthand == s)

@[simp] theorem ofName?_name (l : Level) : ofName? l.name = some l := by cases l <;> decide

@[simp] theorem ofShorthand?_shorthand (l : Level) : ofShorthand? l.shorthand = some l := by
  cases l <;> decide

end Level

def permissionScopes : List Text :=
  ["actions", "attestations", "checks", "contents", "deployments", "discussions", "id-token",
   "issues", "metadata", "models", "packages", "pages", "pull-requests",
   "repository-projects", "organization-projects", "security-events", "statuses"]

/-! ### Permission sets -/

/-- A level for all scopes, and explicit levels that win over it. -/
structure Permissions where
  shorthand : Option Level := none
  scopes : Fields Level := []
deriving DecidableEq, Repr

namespace Permissions

def get? (p : Permissions) (scope : Text) : Option Level :=
  match p.scopes.get? scope with
  | some l => some l
  | none => p.shorthand

/-- Whether a scope is granted a level; write access includes read access. -/
def has (p : Permissions) (scope : Text) (level : Level) : Bool :=
  match p.get? scope with
  | none | some .none => false
  | some granted => level == .read || granted == .write

/-- The scopes with write access, in canonical order.  Beside a shorthand for write
    access the scopes without a level of their own have it. -/
def writeScopes (p : Permissions) : List Text :=
  if p.shorthand = some .write then
    permissionScopes.filter fun s => (p.scopes.get? s).getD .write == .write
  else permissionScopes.filter fun s => p.scopes.get? s == some .write

/-! ### Reading and rendering -/

def scopeEntry? : Data × Data → Option (Text × Level)
  | (.text scope, .text level) =>
    if scope ∈ permissionScopes then (Level.ofName? level).map (scope, ·) else none
  | _ => none

def ofData? : Data → Option Permissions
  | .text s => (Level.ofShorthand? s).map fun l => { shorthand := some l }
  | .map es => some { scopes := Fields.ofList (es.filterMap scopeEntry?) }
  | _ => none

/-- Whether what a record of the log shows of an entry that is dropped is too long: of
    an unknown scope the scope, of an unknown level the level. -/
def entryIsOverlong : Data × Data → Bool
  | (.text scope, level) => decide (scope ∈ permissionScopes) && !level.isShowable
  | (scope, _) => !scope.isShowable

def isOverlong : Data → Bool
  | .map es => es.any entryIsOverlong
  | _ => false

/-- The permissions of a frontmatter value, as the compiler reads them. -/
def read (d : Data) : Check (Option Permissions) := do
  Check.unlessOverlong (isOverlong d)
  return ofData? d

def toData (p : Permissions) : Data :=
  match p.shorthand, p.scopes with
  | some l, [] => .text l.shorthand
  | _, scopes => .ofTextFields (scopes.map fun e => (e.1, e.2.name))

def ofRecord : Schema Permissions :=
  Schema.model fun m => Permissions.mk
    <$> Schema.field m "shorthand" none (Schema.optional (Schema.choice Level.choices))
    <*> Schema.field m "scopes" [] (Schema.fields (Schema.choice Level.choices))

end Permissions

end WorkflowPolicy
