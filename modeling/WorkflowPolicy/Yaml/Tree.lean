/-
  WorkflowPolicy/Yaml/Tree.lean
  =============================
  **What is written of a document.**  A collection that stands in several places is
  written in the first of them, under an anchor, and the others hold an alias.  Anchors
  are numbered in the order in which the second places of their collections are met.

  A set is a mapping to nothing, and a pair is a list of two.
-/
import WorkflowPolicy.Data.Document

namespace WorkflowPolicy.Yaml

inductive Tree where
  | alias (anchor : Nat)
  /-- A value without items. -/
  | leaf (d : Data)
  | list (anchor : Option Nat) (items : List Tree)
  | map (anchor : Option Nat) (isSet : Bool) (entries : List (Data × Tree))
deriving Repr, Inhabited

namespace Tree

def ofSet (anchor : Option Nat) (items : List Data) : Tree :=
  .map anchor true (items.map fun x => (x, .leaf .null))

/-! ### Data in which nothing is used twice -/

mutual

def ofData : Data → Tree
  | .list xs => .list none (ofItems xs)
  | .map es => .map none false (ofEntries es)
  | .set xs => ofSet none xs
  | .pair a b => .list none [ofData a, ofData b]
  | .enclosing _ => .leaf .null
  | d => .leaf d

def ofItems : List Data → List Tree
  | [] => []
  | x :: xs => ofData x :: ofItems xs

def ofEntries : List (Data × Data) → List (Data × Tree)
  | [] => []
  | (k, v) :: es => (k, ofData v) :: ofEntries es

end

/-! ### Anchors -/

/-- A tour of collections, which enters each at the first place where it stands. -/
structure Tour where
  met : Array Bool
  /-- The collections with a second place, the latest first. -/
  again : List Nat := []

/-- Go on with a collection.  Every step inward meets a new one, so as many `steps` as
    there are collections suffice. -/
def Tour.goOn (doc : Document) : Nat → Tour → Nat → Tour
  | 0, t, _ => t
  | steps + 1, t, id =>
    if t.met.getD id true then
      { t with again := if t.again.contains id then t.again else id :: t.again }
    else (doc.links id).foldl (goOn doc steps) { t with met := t.met.setIfInBounds id true }

/-- The collections that need an anchor where parts are written one after another. -/
def repeated (doc : Document) (parts : List Part) : List Nat :=
  ((parts.filterMap Part.id?).foldl (Tour.goOn doc (doc.size + 1)) { met := doc.noFlags }
    ).again.reverse

/-- The number of the anchor of a collection, if it needs one. -/
def anchor? (repeated : List Nat) (id : Nat) : Option Nat :=
  (repeated.findIdx? (· == id)).map (· + 1)

/-! ### Parts of a document -/

/-- A part by what was written before; `steps` bounds the nesting as in a tour. -/
def ofPart (doc : Document) (repeated : List Nat) : Nat → Part → StateM (Array Bool) Tree
  | _, .own d => return ofData d
  | 0, .shared _ => return .leaf .null
  | steps + 1, .shared id => do
    let anchor := anchor? repeated id
    let go := ofPart doc repeated steps
    if (← get).getD id true then return .alias (anchor.getD 0)
    modify (·.setIfInBounds id true)
    match doc.get? id with
    | some (.list xs) => return .list anchor (← xs.mapM go)
    | some (.map es) =>
      return .map anchor false (← es.mapM fun e => do return (e.1, ← go e.2))
    | some (.set xs) => return ofSet anchor xs
    | some (.pairs rows) =>
      return .list anchor (← rows.mapM fun r => do return .list none [← go r.1, ← go r.2])
    | none => return .leaf .null

/-- Entries of a document as a mapping of its own. -/
def ofEntriesOf (doc : Document) (es : List (Data × Part)) : Tree :=
  let repeated := repeated doc (es.map (·.2))
  let write := es.mapM fun e => do
    return (e.1, ← ofPart doc repeated (doc.size + 1) e.2)
  .map none false (write.run doc.noFlags).1

end Tree

end WorkflowPolicy.Yaml
