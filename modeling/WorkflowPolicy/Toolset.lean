/-
  WorkflowPolicy/Toolset.lean
  ===========================
  **Toolsets and the permissions they need.**  A toolset of the tool server can be
  enabled when the token is granted the scopes that it reads and, unless the
  server is read-only, the scopes that it writes.

  The table of toolsets is built in; `Toolset.Table.ofData` reads such a table from
  data, whose rows it leaves as loosely typed as they were written.
-/
import WorkflowPolicy.Permissions

namespace WorkflowPolicy

structure Toolset where
  name : Text
  description : Text
  read : List Text
  write : List Text
deriving DecidableEq, Repr

namespace Toolset

/-! ### The built-in table -/

def builtIn : List Toolset :=
  [⟨"context", "Information about the current user and the running workflow",
     [], []⟩,
   ⟨"repos", "Repository contents, branches, commits and releases",
     ["contents"], ["contents"]⟩,
   ⟨"git", "Low-level git objects (trees, blobs, refs)",
     ["contents"], ["contents"]⟩,
   ⟨"issues", "Issues and issue comments",
     ["issues"], ["issues"]⟩,
   ⟨"labels", "Repository labels",
     ["issues"], ["issues"]⟩,
   ⟨"sub_issues", "Sub-issue relationships",
     ["issues"], ["issues"]⟩,
   ⟨"pull_requests", "Pull requests, reviews and review comments",
     ["pull-requests"], ["pull-requests"]⟩,
   ⟨"actions", "Workflow runs, jobs and artifacts",
     ["actions"], ["actions"]⟩,
   ⟨"code_security", "Code scanning alerts",
     ["security-events"], ["security-events"]⟩,
   ⟨"dependabot", "Dependabot alerts",
     ["security-events"], []⟩,
   ⟨"secret_protection", "Secret scanning alerts",
     ["security-events"], []⟩,
   ⟨"security_advisories", "Repository security advisories",
     ["security-events"], []⟩,
   ⟨"discussions", "Discussions and discussion comments",
     ["discussions"], ["discussions"]⟩,
   ⟨"projects", "Organization and user projects",
     ["organization-projects"], ["organization-projects"]⟩,
   ⟨"gists", "Gists of the authenticated user",
     [], []⟩,
   ⟨"notifications", "Notifications of the authenticated user",
     [], []⟩,
   ⟨"orgs", "Organization metadata",
     [], []⟩,
   ⟨"users", "User profiles",
     [], []⟩,
   ⟨"search", "Code, issue and repository search",
     [], []⟩,
   ⟨"stargazers", "Stars and stargazers",
     [], []⟩,
   ⟨"experiments", "Experimental tools",
     [], []⟩]

def defaultNames : List Text := ["context", "repos", "issues", "pull_requests"]

def find? (table : List Toolset) (name : Text) : Option Toolset :=
  table.find? (·.name == name)

/-! ### Compatible toolsets -/

/-- Whether the needed scopes are granted.  Write access also serves for reading,
    and a read-only server needs no write access. -/
def isGranted (t : Toolset) (p : Permissions) (readOnly : Bool) : Bool :=
  t.read.all (p.has · .read) && (readOnly || t.write.all (p.has · .write))

/-- Whether a named toolset is known and its scopes are granted. -/
def isCompatible (table : List Toolset) (p : Permissions) (readOnly : Bool) (name : Text) :
    Bool :=
  (find? table name).any (·.isGranted p readOnly)

/-- The compatible toolsets among the candidates, in their order.  Without
    permissions there are none. -/
def compatible (table : List Toolset) (p : Option Permissions) (readOnly : Bool)
    (candidates : List Text) : List Text :=
  match p with
  | none => []
  | some p => candidates.filter (isCompatible table p readOnly)

/-! ### Tables given as data -/

/-- A row of a table as it was written. -/
structure Row where
  name : Text
  description : Data
  read : List Data
  write : List Data
deriving Repr

structure Table where
  rows : List Row
  defaults : List Data
deriving Repr

inductive TableError where
  | noToolsets
  | undefinedDefaults (names : List Text)
  /-- A mapping was needed, and another value stands there. -/
  | notMapping
  /-- A value cannot stand where names are listed. -/
  | notNames
deriving DecidableEq, Repr

/-- The text of an error about the table in a file, for the errors that have one. -/
def TableError.message? (path : Text) : TableError → Option Text
  | .noToolsets => some ("Toolset table " ++ path ++ " has no 'toolsets' mapping")
  | .undefinedDefaults names =>
    some ("Default toolsets not defined in " ++ path ++ ": "
      ++ Text.intercalate ", " names)
  | .notMapping | .notNames => none

/-- The names that a value lists.  A text lists its characters, a mapping its keys. -/
def names (d : Data) : Except TableError (List Data) :=
  if d.isPresent then
    match d with
    | .list xs => .ok xs
    | .text s => .ok (s.toList.map fun c => .text ⟨[c]⟩)
    | .map es => .ok (es.map (·.1))
    | _ => .error .notNames
  else .ok []

def rowOf (name : Text) (entry : Data) : Except TableError Row := do
  let m : Mapping ← match entry with
    | .map es => pure es
    | d => if d.isPresent then .error .notMapping else pure []
  let read ← names (m.value "read")
  let write ← names (m.value "write")
  return ⟨name, (m.get? "description").getD "", read, write⟩

/-- The texts among the given names; a name of another kind cannot be reported. -/
def reportable (ds : List Data) : Except TableError (List Text) :=
  ds.mapM fun
    | .text s => .ok s
    | _ => .error .notNames

/-- Read a table: a mapping of rows under `toolsets`, and names of rows under
    `default_toolsets`. -/
def Table.ofData (d : Data) : Except TableError Table := do
  let m : Mapping ← match d with
    | .map es => pure es
    | d => if d.isPresent then .error .notMapping else pure []
  match m.value "toolsets" with
  | .map es =>
    let rows ← es.mapM fun e => rowOf e.1.display e.2
    let defaults ← names (m.value "default_toolsets")
    let unknown := defaults.filter fun d => !(rows.any fun r => Data.text r.name == d)
    if unknown.isEmpty then return ⟨rows, defaults⟩
    else .error (.undefinedDefaults (← reportable unknown))
  | _ => .error .noToolsets

end Toolset

end WorkflowPolicy
