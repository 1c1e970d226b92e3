/-
  WorkflowPolicy/Frontmatter.lean
  ===============================
  **Frontmatter of workflow files.**  A Markdown file starts with its frontmatter,
  between two lines of three dashes; any other file is frontmatter as a whole.  The
  frontmatter is YAML and holds a mapping.

  YAML 1.1 reads the bare key `on` as a boolean.  `restoreTrigger` gives it its name
  back, so that later stages need not know.

  `load` gives the frontmatter as a plain mapping; `loadDocument` also knows which of
  its collections were used twice.
-/
import WorkflowPolicy.Files
import WorkflowPolicy.Readers

namespace WorkflowPolicy

namespace Frontmatter

inductive Fault where
  | noStart
  | unterminated
  | yaml (f : Yaml.Fault)
  | notMapping (kindName : String)
  /-- A key with too many digits, which is not put into the log. -/
  | overlong
  | file (e : FileError)
deriving DecidableEq, Repr

/-- The text of a fault in the file of the given path, for those that have one. -/
def Fault.message? (path : Path) : Fault → Option String
  | .noStart => some "Markdown workflow must start with a '---' frontmatter block"
  | .unterminated => some "Unterminated frontmatter block: missing closing '---'"
  | .yaml .malformed | .yaml .strangeCharacter =>
    some ("Invalid YAML frontmatter in " ++ path.text)
  | .yaml f => f.message?
  | .notMapping kindName =>
    some ("Frontmatter in " ++ path.text ++ " must be a mapping, got " ++ kindName)
  | .overlong => some Text.overlongMessage
  | .file e => e.message?

/-! ### The block of a Markdown file -/

def delimiter : Text := "---"

def isDelimiter (line : Text) : Bool := Text.strip line == delimiter

/-- The lines between the first line and the next delimiter. -/
def split (text : Text) : Except Fault Text :=
  match Text.lines text with
  | [] => .error .noStart
  | first :: rest =>
    if isDelimiter first then
      let block := rest.takeWhile (!isDelimiter ·)
      if block.length < rest.length then .ok (Text.joinLines block) else .error .unterminated
    else .error .noStart

/-- The kinds of files whose frontmatter is a block at the start. -/
def markdownKinds : List Text := [".md", ".markdown"]

def block (path : Path) (text : Text) : Except Fault Text :=
  if markdownKinds.contains path.kind then split text else .ok text

/-! ### Data -/

/-- The entry of a bare `on` under its name, at the end, unless the name is taken. -/
def restoreTrigger {α : Type} (m : List (Data × α)) : List (Data × α) :=
  match Assoc.get? Data.keyForm (.bool true) m, Assoc.get? Data.keyForm (.text "on") m with
  | some d, none =>
    Assoc.insert Data.keyForm (.text "on") d (Assoc.erase Data.keyForm (.bool true) m)
  | _, _ => m

/-- A document as frontmatter, which has to be a mapping.  Nothing is an empty one. -/
def ofDocument (doc : Document) : Except Fault Document :=
  match doc.root, doc.entries? doc.root with
  | .own .null, _ => .ok (.ofData (.map []))
  | .shared id, some es =>
    let restored := restoreTrigger es
    if restored.all (·.1.isShowable) then .ok (doc.set id (.map restored)) else .error .overlong
  | _, _ => .error (.notMapping doc.data.kindName)

def ofBlock (readers : Readers) (text : Text) : Except Fault Document :=
  match readers.yaml text with
  | .ok doc => ofDocument doc
  | .error f => .error (.yaml f)

def ofText (readers : Readers) (path : Path) (text : Text) : Except Fault Document := do
  ofBlock readers (← block path text)

def loadDocument (readers : Readers) (fs : Files) (path : Path) : Except Fault Document :=
  match fs.read path with
  | .ok text => ofText readers path text
  | .error e => .error (.file e)

def load (readers : Readers) (fs : Files) (path : Path) : Except Fault Mapping :=
  (loadDocument readers fs path).map (·.entries)

end Frontmatter

end WorkflowPolicy
