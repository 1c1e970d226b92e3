/-
  WorkflowPolicy/Yaml/Reader.lean
  ===============================
  **Reading YAML text.**  A text holds at most one document; without one it stands
  for null.  Directives in front of a document may define what its tags mean.
-/
import WorkflowPolicy.Yaml.Node.Grammar
import WorkflowPolicy.Yaml.Node.Meaning
import WorkflowPolicy.Yaml.Token.Scanner

namespace WorkflowPolicy.Yaml

/-! ### Characters -/

def isAllowed (c : Char) : Bool :=
  c == '\t' || c == '\n' || c == '\r' || c == '\x85' || decide (' ' ≤ c ∧ c ≤ '~')
    || decide ('\xa0' ≤ c ∧ c ≤ '\ufffd') || decide (0x10000 ≤ c.toNat)

/-- Every line end but the two Unicode separators as a line feed. -/
def unifyBreaks : List Char → List Char
  | '\r' :: '\n' :: rest => '\n' :: unifyBreaks rest
  | c :: rest => (if c == '\r' || c == '\x85' then '\n' else c) :: unifyBreaks rest
  | [] => []

/-! ### Directives -/

/-- The handles that every document knows. -/
def standardHandles : Fields String := [("!", "!"), ("!!", Tag.standardStart)]

/-- What the directives of a document say. -/
structure Preamble where
  version : Option Nat := none
  handles : Fields String := []

def Preamble.add? (p : Preamble) : Directive → Option Preamble
  | .version major _ =>
    if p.version.isSome || major != 1 then none else some { p with version := some major }
  | .tagHandle h start =>
    if p.handles.contains h then none else some { p with handles := p.handles.insert h start }
  | .other => some p

/-- The directives that stand here. -/
def directives : List Token → List Directive × List Token
  | .directive d :: rest => let (ds, rest) := directives rest; (d :: ds, rest)
  | ts => ([], ts)

/-! ### Documents -/

/-- Enough steps for the nodes of some tokens: a token is handed over at most four
    times before it is read. -/
def stepsFor (ts : List Token) : Nat := 4 * ts.length + 4

/-- Whether nothing but marks of a document's end follows. -/
def isFinished (ts : List Token) : Bool := ts.all (· == .documentEnd)

/-- Why something else follows: the text goes wrong, or has another document. -/
def unfinished : List Token → Fault
  | .documentEnd :: rest | .directive _ :: rest => unfinished rest
  | ts => Token.unexpected ts

/-- The nodes of a document, whose tokens are the last ones, and the number of the node
    that is the whole. -/
def documentNodes (deepest : Nat) (handles : Fields String) (ts : List Token) :
    Except Fault (Nodes × Nat) := do
  let (id, r) ←
    Node.nodeAt .block (stepsFor ts) { tokens := ts, room := deepest, handles := handles }
  if isFinished r.tokens then return (r.nodes, id) else throw (unfinished r.tokens)

def startsContent : List Token → Bool
  | [] | .documentEnd :: _ | .documentStart :: _ | .directive _ :: _ => false
  | _ => true

def nothing : Nodes × Nat := (#[Node.empty], 0)

/-- The nodes of the only document; an empty text has none. -/
def onlyNodes (deepest : Nat) (ts : List Token) : Except Fault (Nodes × Nat) :=
  match ts with
  | [] => .ok nothing
  | .directive _ :: _ | .documentStart :: _ => do
    let (ds, rest) := directives ts
    let p ← expect (ds.foldlM Preamble.add? {})
    match rest with
    | .documentStart :: rest =>
      if startsContent rest then documentNodes deepest (p.handles ++ standardHandles) rest
      else if isFinished rest then return nothing
      else throw (unfinished rest)
    | _ => throw (Token.unexpected rest)
  | _ => documentNodes deepest standardHandles ts

/-- The document of a text, which has characters only.  Nodes may lie in nodes down to the
    given depth. -/
def document (deepest : Nat) (s : Text) : Except Fault Document := do
  let cs ← (s.chars?.filter (·.all isAllowed)).elim (.error .strangeCharacter) .ok
  let (nodes, root) ← onlyNodes deepest (Token.ofChars (unifyBreaks cs))
  nodes.document root

def read (deepest : Nat) (s : Text) : Except Fault Data := do
  return (← document deepest s).data

end WorkflowPolicy.Yaml
