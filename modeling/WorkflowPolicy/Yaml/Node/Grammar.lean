/-
  WorkflowPolicy/Yaml/Node/Grammar.lean
  =====================================
  **From tokens to nodes.**  A node is an alias, a scalar, a collection in brackets
  or a block; an anchor and a tag may stand before it.  Where a node may be missing,
  null stands in its place.

  An anchor names its node from there on, inside the node as well; a name is given
  once.  Every node takes its number before its parts are read.

  Nodes may lie in nodes down to a given level; a deeper document is not read on.
-/
import WorkflowPolicy.Data
import WorkflowPolicy.Yaml.Fault
import WorkflowPolicy.Yaml.Node
import WorkflowPolicy.Yaml.Token

namespace WorkflowPolicy.Yaml

/-! ### State -/

/-- The tokens that are still to be read, the nodes so far and their names. -/
structure Reading where
  tokens : List Token
  nodes : Nodes := #[]
  named : Fields Nat := []
  /-- How many nodes may still lie in each other at this place. -/
  room : Nat
  /-- What the handles of tags stand for. -/
  handles : Fields String := []

namespace Reading

def next (r : Reading) : Reading := { r with tokens := r.tokens.drop 1 }

/-- Whether one of the given tokens comes next. -/
def sees (r : Reading) (ts : List Token) : Bool := r.tokens.head?.any ts.contains

/-- Look at the next token, which must have been read. -/
def look (r : Reading) : Except Fault Unit :=
  match r.tokens with
  | .unread f :: _ => .error f
  | _ => .ok ()

def take (r : Reading) (t : Token) : Except Fault Reading :=
  if r.sees [t] then .ok r.next else .error (Token.unexpected r.tokens)

/-! ### Properties -/

structure Properties where
  anchor : Option String := none
  tag : Option WrittenTag := none

/-- The anchor and the tag that stand here, in any order. -/
def properties (r : Reading) : Properties × Reading :=
  match r.tokens with
  | .anchor a :: .tag t :: rest => (⟨some a, some t⟩, { r with tokens := rest })
  | .tag t :: .anchor a :: rest => (⟨some a, some t⟩, { r with tokens := rest })
  | .anchor a :: rest => (⟨some a, none⟩, { r with tokens := rest })
  | .tag t :: rest => (⟨none, some t⟩, { r with tokens := rest })
  | _ => ({}, r)

def tagName? (r : Reading) (t : WrittenTag) : Option String :=
  match t.handle with
  | none => some t.suffix
  | some h => (r.handles.get? h).map (· ++ t.suffix)

/-- A tag that leaves the type to the node. -/
def openTag : String := "!"

/-- The type of a node: of its tag if it has one, else the given one. -/
def tagOr? (r : Reading) (p : Properties) (implied : Tag) : Option Tag :=
  match p.tag with
  | none => some implied
  | some t => (r.tagName? t).map fun name => if name == openTag then implied else Tag.ofName name

/-- The type of a scalar; an open tag has it read as if it had no quotes. -/
def scalarTag? (r : Reading) (p : Properties) (plain : Bool) (s : Text) : Option Tag :=
  r.tagOr? p
    (match s.chars? with
    | some cs => if p.tag.isSome then Tag.ofOpen cs else if plain then Tag.ofPlain cs else .text
    | none => .text)

/-! ### Numbers and names -/

/-- Take the next number for a node. -/
def add (r : Reading) (n : Node) : Nat × Reading :=
  (r.nodes.size, { r with nodes := r.nodes.push n })

/-- Enter a node, unless it lies too deep. -/
def enter (r : Reading) : Except Fault Reading :=
  match r.room with
  | 0 => .error .tooDeep
  | n + 1 => .ok { r with room := n }

def leave (r : Reading) : Reading := { r with room := r.room + 1 }

/-- Enter a node with an anchor, if it has one; the name must be free. -/
def start (r : Reading) (anchor : Option String) : Except Fault (Nat × Reading) := do
  let (id, r) := (← r.enter).add Node.empty
  match anchor with
  | none => return (id, r)
  | some a =>
    if r.named.contains a then throw .malformed
    else return (id, { r with named := r.named.insert a id })

/-- Leave a node, which is complete. -/
def finish (r : Reading) (id : Nat) (n : Node) : Reading :=
  { r.leave with nodes := r.nodes.setIfInBounds id n }

end Reading

namespace Node

/-! ### Nodes -/

/-- Which blocks may stand at a place. -/
inductive Setting where
  /-- Inside brackets, where there are no blocks. -/
  | bracket
  | block
  /-- After a key, where the items of a list may stand without a block. -/
  | blockValue
deriving DecidableEq, Repr

mutual

/-- The number of the node that stands here.  Every call reads a token or hands over
    to a call that does, so `steps` bounds the nesting. -/
def nodeAt (setting : Setting) : Nat → Reading → Except Fault (Nat × Reading)
  | 0, _ => .error .malformed
  | steps + 1, r =>
    match r.tokens with
    | .alias a :: rest => do
      let id ← expect (r.named.get? a)
      return (id, { r with tokens := rest })
    | _ => do
      let (p, r) := r.properties
      r.look
      let (id, r) ← r.start p.anchor
      let (n, r) ← contentAt setting p steps r
      return (id, r.finish id n)

/-- The node that stands here, without its properties. -/
def contentAt (setting : Setting) (p : Reading.Properties) :
    Nat → Reading → Except Fault (Node × Reading)
  | 0, _ => .error .malformed
  | steps + 1, r => do
    let listTag ← expect (r.tagOr? p .list)
    let mapTag ← expect (r.tagOr? p .map)
    match r.tokens with
    | .scalar s plain :: rest =>
      let tag ← expect (r.scalarTag? p plain s)
      return (.scalar tag s, { r with tokens := rest })
    | .listStart :: _ =>
      let (xs, r) ← bracketItems true steps r.next
      return (.list listTag xs, r)
    | .mapStart :: _ =>
      let (es, r) ← bracketEntries true steps r.next
      return (.map mapTag es, r)
    | _ =>
      if setting = .blockValue ∧ r.sees [.item] then
        let (xs, r) ← looseItems steps r
        return (.list listTag xs, r)
      else if setting ≠ .bracket ∧ r.sees [.blockListStart] then
        let (xs, r) ← blockItems steps r.next
        return (.list listTag xs, r)
      else if setting ≠ .bracket ∧ r.sees [.blockMapStart] then
        let (es, r) ← blockEntries steps r.next
        return (.map mapTag es, r)
      else if p.anchor.isSome || p.tag.isSome then
        return (.scalar (← expect (r.tagOr? p .null)) .empty, r)
      else throw .malformed

/-- The node that stands here, or null before one of the given tokens. -/
def nodeUnless (setting : Setting) (ends : List Token) :
    Nat → Reading → Except Fault (Nat × Reading)
  | 0, _ => .error .malformed
  | steps + 1, r => if r.sees ends then .ok (r.add empty) else nodeAt setting steps r

/-- The items of a block up to its end. -/
def blockItems : Nat → Reading → Except Fault (List Nat × Reading)
  | 0, _ => .error .malformed
  | steps + 1, r =>
    if r.sees [.item] then do
      let (x, r) ← nodeUnless .block [.item, .blockEnd] steps r.next
      let (xs, r) ← blockItems steps r
      return (x :: xs, r)
    else do return ([], ← r.take .blockEnd)

/-- The items of a list that has no block of its own. -/
def looseItems : Nat → Reading → Except Fault (List Nat × Reading)
  | 0, _ => .error .malformed
  | steps + 1, r =>
    if r.sees [.item] then do
      let (x, r) ← nodeUnless .block [.item, .key, .value, .blockEnd] steps r.next
      let (xs, r) ← looseItems steps r
      return (x :: xs, r)
    else .ok ([], r)

/-- The entries of a block up to its end. -/
def blockEntries : Nat → Reading → Except Fault (List (Nat × Nat) × Reading)
  | 0, _ => .error .malformed
  | steps + 1, r =>
    if r.sees [.key] then do
      let ends := [Token.key, .value, .blockEnd]
      let (k, r) ← nodeUnless .blockValue ends steps r.next
      let (v, r) ←
        if r.sees [.value] then nodeUnless .blockValue ends steps r.next
        else .ok (r.add empty)
      let (es, r) ← blockEntries steps r
      return ((k, v) :: es, r)
    else do return ([], ← r.take .blockEnd)

/-- The value of an entry in brackets, null if it has none. -/
def bracketValue (close : Token) : Nat → Reading → Except Fault (Nat × Reading)
  | 0, _ => .error .malformed
  | steps + 1, r =>
    if r.sees [.value] then nodeUnless .bracket [.comma, close] steps r.next
    else .ok (r.add empty)

/-- An item in brackets, which may be a single entry. -/
def bracketItem : Nat → Reading → Except Fault (Nat × Reading)
  | 0, _ => .error .malformed
  | steps + 1, r =>
    if r.sees [.key] then do
      let (k, r) ← nodeUnless .bracket [.value, .comma, .listEnd] steps (← r.enter).next
      let (v, r) ← bracketValue .listEnd steps r
      return r.leave.add (.map .map [(k, v)])
    else nodeAt .bracket steps r

/-- An entry in braces; a node without a colon is a key. -/
def bracketEntry : Nat → Reading → Except Fault ((Nat × Nat) × Reading)
  | 0, _ => .error .malformed
  | steps + 1, r =>
    if r.sees [.key] then do
      let (k, r) ← nodeUnless .bracket [.value, .comma, .mapEnd] steps r.next
      let (v, r) ← bracketValue .mapEnd steps r
      return ((k, v), r)
    else do
      let (k, r) ← nodeAt .bracket steps r
      let (v, r) := r.add empty
      return ((k, v), r)

/-- The items up to the closing bracket; a comma stands before all but the first,
    and may stand behind the last. -/
def bracketItems (first : Bool) :
    Nat → Reading → Except Fault (List Nat × Reading)
  | 0, _ => .error .malformed
  | steps + 1, r =>
    if r.sees [.listEnd] then .ok ([], r.next)
    else do
      let r ← if first then .ok r else r.take .comma
      if r.sees [.listEnd] then return ([], r.next)
      let (x, r) ← bracketItem steps r
      let (xs, r) ← bracketItems false steps r
      return (x :: xs, r)

/-- The entries up to the closing brace. -/
def bracketEntries (first : Bool) :
    Nat → Reading → Except Fault (List (Nat × Nat) × Reading)
  | 0, _ => .error .malformed
  | steps + 1, r =>
    if r.sees [.mapEnd] then .ok ([], r.next)
    else do
      let r ← if first then .ok r else r.take .comma
      if r.sees [.mapEnd] then return ([], r.next)
      let (e, r) ← bracketEntry steps r
      let (es, r) ← bracketEntries false steps r
      return (e :: es, r)

end

end Node

end WorkflowPolicy.Yaml
