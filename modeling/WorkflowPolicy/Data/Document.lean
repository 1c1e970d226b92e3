/-
  WorkflowPolicy/Data/Document.lean
  =================================
  **Data that is used more than once.**  A document may name a list or a mapping and
  use it again in other places, even inside itself.  It holds every collection once,
  under a number, and the places where a collection stands refer to that number.

  `Document.data` is the tree of a document.  It is found in one fold over the
  collections, each of which comes after those that lie in it (`Document.order`).
  Only a collection that lies in itself is not complete when it is asked for: there
  the tree goes on for a fixed number of levels and is then cut off.
-/
import WorkflowPolicy.Data

namespace WorkflowPolicy

/-! ### Parts and collections -/

inductive Part where
  /-- A value that stands in this place alone. -/
  | own (d : Data)
  /-- A collection of the document, by its number. -/
  | shared (id : Nat)
deriving DecidableEq, Repr, Inhabited

/-- A collection by its parts.  Keys and the items of sets have no parts. -/
inductive Collection where
  | list (items : List Part)
  | map (entries : List (Data × Part))
  | set (items : List Data)
  | pairs (rows : List (Part × Part))
deriving DecidableEq, Repr, Inhabited

namespace Part

def id? : Part → Option Nat
  | .own _ => none
  | .shared id => some id

def toData (look : Nat → Data) : Part → Data
  | .own d => d
  | .shared id => look id

end Part

namespace Collection

def parts : Collection → List Part
  | .list xs => xs
  | .map es => es.map (·.2)
  | .set _ => []
  | .pairs rows => rows.flatMap fun r => [r.1, r.2]

/-- The collections that stand in a collection, in order. -/
def links (c : Collection) : List Nat := c.parts.filterMap Part.id?

def toData (look : Nat → Data) : Collection → Data
  | .list xs => .list (xs.map (·.toData look))
  | .map es => .map (es.map fun e => (e.1, e.2.toData look))
  | .set xs => .set xs
  | .pairs rows => .list (rows.map fun r => .pair (r.1.toData look) (r.2.toData look))

/-- What stands for a collection inside itself. -/
def cut : Collection → Data
  | .map _ => .enclosing true
  | _ => .enclosing false

end Collection

/-! ### Documents -/

/-- The collections of a document by their numbers, and the part that is the whole. -/
structure Document where
  collections : Array Collection := #[]
  root : Part
deriving Repr

namespace Document

/-- A document in which nothing is used twice. -/
def ofData (d : Data) : Document := { root := .own d }

def get? (doc : Document) (id : Nat) : Option Collection := doc.collections[id]?

def set (doc : Document) (id : Nat) (c : Collection) : Document :=
  { doc with collections := doc.collections.setIfInBounds id c }

def add (doc : Document) (c : Collection) : Document :=
  { doc with collections := doc.collections.push c }

def size (doc : Document) : Nat := doc.collections.size

def links (doc : Document) (id : Nat) : List Nat :=
  match doc.get? id with
  | some c => c.links
  | none => []

def noFlags (doc : Document) : Array Bool := Array.replicate doc.size false

/-! ### The order of collections -/

/-- Which collections were met, and which are complete, the latest first. -/
structure Visits where
  met : Array Bool
  complete : List Nat := []

/-- Visit a collection after those that lie in it.  Every step inward meets a new
    collection, so as many `steps` as there are collections suffice. -/
def visit (doc : Document) : Nat → Visits → Nat → Visits
  | 0, v, _ => v
  | steps + 1, v, id =>
    if v.met.getD id true then v
    else
      let v := (doc.links id).foldl (visit doc steps) { v with met := v.met.setIfInBounds id true }
      { v with complete := id :: v.complete }

/-- The collections of a document; each one follows those that lie in it, unless it
    lies in one of them. -/
def order (doc : Document) : List Nat :=
  (doc.root.id?.toList.foldl (doc.visit (doc.size + 1)) { met := doc.noFlags }).complete.reverse

/-- Whether a collection lies in itself: it then comes before one that lies in it. -/
def isCyclic (doc : Document) : Bool :=
  (doc.order.foldl
    (fun (complete, found) id =>
      (complete.setIfInBounds id true,
        found || (doc.links id).any fun l => !complete.getD l true))
    (doc.noFlags, false)).2

def isTree (doc : Document) : Bool :=
  let uses := doc.root.id?.toList ++ doc.order.flatMap doc.links
  !(uses.foldl
    (fun (used, found) id => (used.setIfInBounds id true, found || used.getD id false))
    (doc.noFlags, false)).2

/-! ### The tree -/

/-- The data of all collections, by what is known of the ones in them.  A collection
    that is complete already counts with its new data. -/
def unfold (doc : Document) (order : List Nat) (table : Array Data) : Array Data :=
  order.foldl
    (fun table id =>
      match doc.get? id with
      | some c => table.setIfInBounds id (c.toData fun l => table.getD l .null)
      | none => table)
    table

/-- How often the tree of a collection goes on inside itself.  No reader of data looks
    at more levels. -/
def depth : Nat := 8

def data (doc : Document) : Data :=
  let rounds := if doc.isCyclic then depth else 1
  let table := Nat.repeat (doc.unfold doc.order) rounds (doc.collections.map Collection.cut)
  doc.root.toData fun id => table.getD id .null

/-- A part as a tree that is cut off where a collection comes to stand inside itself.
    `above` holds the collections that the part lies in; `steps` bounds their number. -/
def outlineWithin (doc : Document) : Nat → List Nat → Part → Data
  | _, _, .own d => d
  | 0, _, .shared _ => .null
  | steps + 1, above, .shared id =>
    match doc.get? id with
    | some c =>
      if above.contains id then c.cut
      else c.toData fun l => outlineWithin doc steps (id :: above) (.shared l)
    | none => .null

def outline (doc : Document) (p : Part) : Data := doc.outlineWithin (doc.size + 1) [] p

/-! ### Entries -/

def entries? (doc : Document) : Part → Option (List (Data × Part))
  | .own (.map es) => some (es.map fun e => (e.1, .own e.2))
  | .own _ => none
  | .shared id =>
    match doc.get? id with
    | some (.map es) => some es
    | _ => none

def part? (doc : Document) (p : Part) (k : Data) : Option Part :=
  (doc.entries? p).bind (Assoc.get? Data.keyForm k)

/-- The part at the end of a way of keys. -/
def partAt? (doc : Document) (way : List Text) : Option Part :=
  way.foldlM (fun p k => doc.part? p (.text k)) doc.root

def entriesAt? (doc : Document) (way : List Text) : Option (List (Data × Part)) :=
  (doc.partAt? way).bind doc.entries?

/-- The tree of a document that is a mapping, and no entries of any other one. -/
def entries (doc : Document) : Mapping :=
  match doc.data with
  | .map es => es
  | _ => []

/-! ### Documents of plain data -/

@[simp] theorem data_ofData (d : Data) : (ofData d).data = d := rfl

@[simp] theorem entries_ofData (m : Mapping) : (ofData (.map m)).entries = m := rfl

@[simp] theorem isTree_ofData (d : Data) : (ofData d).isTree = true := rfl

/-- What holds of a list `[[x, x], x]` with `x = [1]`, and of a list that contains
    itself alone. -/
example :
    let twice : Document :=
      ⟨#[.list [.shared 1, .shared 2], .list [.shared 2, .shared 2], .list [.own (.int 1)]],
        .shared 0⟩
    let x := Data.list [.int 1]
    twice.data = .list [.list [x, x], x] ∧ twice.isTree = false ∧ twice.isCyclic = false := by
  decide +kernel

example :
    let self : Document := ⟨#[.list [.shared 0]], .shared 0⟩
    self.isCyclic = true ∧ self.outline self.root = .list [.enclosing false] := by
  decide +kernel

end Document

end WorkflowPolicy
