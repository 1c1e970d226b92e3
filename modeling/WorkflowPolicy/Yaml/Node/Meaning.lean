/-
  WorkflowPolicy/Yaml/Node/Meaning.lean
  =====================================
  **From nodes to data.**  Scalars have their data at once.  A collection is noted when
  it is met and gets its parts later, after all that were noted before it; so it may
  lie in itself, and the faults of a document come in the order of its levels.

  A key has to be a scalar.  The entries that a merge key takes over come before the
  mapping's own, so that its own win; of equal keys the last value counts, in the
  place of the first.
-/
import WorkflowPolicy.Data.Document
import WorkflowPolicy.Yaml.Node
import WorkflowPolicy.Yaml.Scalar

namespace WorkflowPolicy.Yaml

namespace Nodes

/-! ### Texts -/

/-- The text of a scalar.  A mapping stands for its value under an equals sign.  Every
    step enters another node, so a text that takes more steps than there are nodes is
    never found. -/
def textAt (nodes : Nodes) : Nat → Nat → Except Fault Text
  | 0, _ => .error .tooDeep
  | steps + 1, id =>
    match nodes.node id with
    | .scalar _ s => .ok s
    | .list _ _ => .error .malformed
    | .map _ es =>
      match es.find? fun e => nodes.tag e.1 = .default with
      | some e => textAt nodes steps e.2
      | none => .error .malformed

def text (nodes : Nodes) (id : Nat) : Except Fault Text :=
  nodes.textAt (nodes.size + 1) id

/-! ### Entries -/

/-- An equals sign that is a key is no more than its text, wherever it stands. -/
def settleKey (nodes : Nodes) (id : Nat) : Nodes :=
  if nodes.tag id = .default then
    nodes.setIfInBounds id ((nodes.node id).withTag .text)
  else nodes

/-- The mappings that a merge key names, the first one last, as it wins. -/
def merged (nodes : Nodes) (id : Nat) : List Nat :=
  match nodes.node id with
  | .list _ xs => xs.reverse
  | _ => [id]

/-- Give a mapping the entries that its merge keys take over.  Its own merge keys are
    gone by then, so `steps` bounds the nesting by the number of nodes. -/
def settle : Nat → Nodes → Nat → Except Fault Nodes
  | 0, _, _ => .error .malformed
  | steps + 1, nodes, id =>
    match nodes.node id with
    | .map tag es => do
      let (taking, own) := es.partition fun e => nodes.tag e.1 = .merge
      let nodes := own.foldl (fun nodes e => nodes.settleKey e.1) nodes
      if taking.isEmpty then return nodes
      let sources := taking.flatMap fun e => nodes.merged e.2
      let nodes := nodes.setIfInBounds id (.map tag own)
      let nodes ← sources.foldlM (settle steps) nodes
      return nodes.setIfInBounds id (.map tag (sources.flatMap nodes.entries ++ own))
    | _ => .error .malformed

end Nodes

/-! ### Progress -/

/-- What is known while the nodes of a document get their data. -/
structure Progress where
  nodes : Nodes
  parts : Array (Option Part)
  /-- The nodes of the collections, in the order in which they were met. -/
  noted : Array Nat := #[]

/-- A step that may fail. -/
abbrev Progress.Step := StateT Progress (Except Fault)

namespace Progress

def start (nodes : Nodes) : Progress :=
  { nodes := nodes, parts := Array.replicate nodes.size none }

def keep (p : Progress) (id : Nat) (part : Part) : Progress :=
  { p with parts := p.parts.setIfInBounds id (some part) }

/-- Give the next number to a collection. -/
def note (p : Progress) (id : Nat) : Part × Progress :=
  let part := Part.shared p.noted.size
  (part, { p.keep id part with noted := p.noted.push id })

def scalar (p : Progress) (id : Nat) : Except Fault Data := do
  if !(p.nodes.tag id).isScalar then throw .malformed
  Scalar.value (p.nodes.tag id) (← p.nodes.text id)

def part (id : Nat) : Step Part := fun p =>
  match p.parts.getD id none with
  | some part => .ok (part, p)
  | none =>
    if (p.nodes.tag id).isCollection then .ok (p.note id)
    else (p.scalar id).map fun d => (.own d, p.keep id (.own d))

def key (id : Nat) : Step Data := do
  match ← part id with
  | .own d => return d
  | .shared _ => throw .malformed

/-! ### Collections -/

def entry (e : Nat × Nat) : Step (Data × Part) := do
  let k ← key e.1
  return (k, ← part e.2)

/-- The entries of a mapping with its merge keys replaced. -/
def entries (id : Nat) : Step (List (Data × Part)) := do
  let p ← get
  let nodes ← p.nodes.settle (p.nodes.size + 1) id
  set { p with nodes := nodes }
  return Assoc.ofList Data.keyForm (← (nodes.entries id).mapM entry)

/-- A mapping with a single entry, as a pair. -/
def row (id : Nat) : Step (Part × Part) := do
  match (← get).nodes.node id with
  | .map _ [(k, v)] =>
    let k ← part k
    return (k, ← part v)
  | _ => throw .malformed

def collection (id : Nat) : Step Collection := do
  match (← get).nodes.node id with
  | .list .list xs => return .list (← xs.mapM part)
  | .list .pairs xs => return .pairs (← xs.mapM row)
  | .map .map _ => return .map (← entries id)
  | .map .set _ => return .set ((← entries id).map (·.1))
  | _ => throw .malformed

/-- The collections that were noted and not yet made.  A node is noted once, so `steps`
    bounds their number. -/
def complete : Nat → Array Collection → Step (Array Collection)
  | 0, made => return made
  | steps + 1, made => do
    match (← get).noted[made.size]? with
    | some id => complete steps (made.push (← collection id))
    | none => return made

end Progress

/-- The document of nodes, one of which stands for the whole. -/
def Nodes.document (nodes : Nodes) (root : Nat) : Except Fault Document :=
  StateT.run' (do
    let part ← Progress.part root
    return { collections := ← Progress.complete nodes.size #[], root := part })
    (Progress.start nodes)

end WorkflowPolicy.Yaml
