/-
  WorkflowPolicy/Path.lean
  ========================
  **Paths of files.**  A path is a list of names below a start, which is empty for a
  path that is relative.  Reading a path drops empty names and single dots, so equal
  paths are written alike.
-/
import WorkflowPolicy.Text.LetterCase
import WorkflowPolicy.Text.Parts

namespace WorkflowPolicy

structure Path where
  start : String := ""
  names : List String := []
deriving DecidableEq, Repr

namespace Path

/-! ### Text -/

/-- The start of a path by its leading slashes: two of them are a start of their
    own. -/
def startOf : List Char → String
  | ['/', '/'] => "//"
  | '/' :: '/' :: c :: _ => if c = '/' then "/" else "//"
  | '/' :: _ => "/"
  | _ => ""

def ofText (s : String) : Path :=
  { start := startOf s.toList
    names := (Text.splitString '/' s).filter fun n => n != "" && n != "." }

def text (p : Path) : String :=
  if p.start = "" ∧ p.names = [] then "." else p.start ++ "/".intercalate p.names

/-! ### Names -/

def isRelative (p : Path) : Bool := p.start == ""

def name (p : Path) : String := p.names.getLast?.getD ""

def parent (p : Path) : Path := { p with names := p.names.dropLast }

def extended (p : Path) (more : String) : Path :=
  { p with names := p.names.dropLast ++ [p.name ++ more] }

/-- The last point of a name and what follows it, unless the name starts or ends
    with it. -/
def suffix (p : Path) : String :=
  let cs := p.name.toList
  let after := (cs.reverse.takeWhile (· != '.')).reverse
  if after.isEmpty || decide (cs.length ≤ after.length + 1) then ""
  else String.ofList ('.' :: after)

def kind (p : Path) : Text := Text.lower p.suffix

def below (base p : Path) : Path :=
  if p.isRelative then { base with names := base.names ++ p.names } else p

/-! ### Home -/

/-- A path whose first name is a tilde starts at the home directory. -/
def expand (p home : Path) : Path :=
  match p.isRelative, p.names with
  | true, "~" :: rest => { home with names := home.names ++ rest }
  | _, _ => p

/-- Whether a path starts at the home of another user, which is not known here. -/
def isForeignHome (p : Path) : Bool :=
  p.isRelative && (p.names.head?.any fun n => n.startsWith "~" && n != "~")

/-! ### Places -/

/-- One step on a way of names: a double dot leads up, any other name leads down. -/
def enter (p : Path) (n : String) : Path :=
  if n = ".." then p.parent else { p with names := p.names ++ [n] }

def enterAll (p : Path) (names : List String) : Path := names.foldl enter p

/-- The one path that stands for all the spellings of a place; relative paths start
    at `here`. -/
def resolve (here p : Path) : Path :=
  let q := here.below p
  enterAll { q with names := [] } q.names

/-- A path with every path on the way to it, the shortest first. -/
def trail (p : Path) : List Path :=
  (List.range (p.names.length + 1)).map fun n => { p with names := p.names.take n }

def isAbove (p q : Path) : Bool :=
  p.start == q.start && p.names.isPrefixOf q.names && p.names != q.names

example : (ofText "a//b/./c.tar.GZ").text = "a/b/c.tar.GZ" ∧
    (ofText "a/b/./c.tar.GZ").kind = ".gz" ∧ (ofText ".yaml").suffix = "" := by decide +kernel

end Path

end WorkflowPolicy
