/-
  WorkflowPolicy/Settings/Override.lean
  =====================================
  **Overrides of settings.**  An override names an entry by the keys on the way to
  it, with points between them, and gives it a value.  Missing mappings on the way
  are created; a null overrides nothing.

  Overrides are applied one after the other, so a later one sees what an earlier one
  wrote.  In a document a mapping that stands in several places changes in all of
  them.
-/
import WorkflowPolicy.Data.Document
import WorkflowPolicy.Text.Parts

namespace WorkflowPolicy

/-- Why an override cannot be applied. -/
inductive OverrideFault where
  /-- The last value on the way has no entries that could be set. -/
  | notSettable
  /-- A value further up has no entries that could be followed. -/
  | notNested
  /-- The key of an override is no text, so it names no way. -/
  | noWay
deriving DecidableEq, Repr

namespace Mapping

/-- The value at the end of a way of keys. -/
def getAt? (m : Mapping) : List Text → Option Data
  | [] => some (.map m)
  | [k] => m.get? k
  | k :: ks =>
    match m.get? k with
    | some (.map inner) => getAt? inner ks
    | _ => none

/-- The mapping under a key, created if the key is missing; `last` says whether the
    entry to set lies in it. -/
def inner (m : Mapping) (k : Text) (last : Bool) : Except OverrideFault Mapping :=
  match m.get? k with
  | none => .ok []
  | some (.map es) => .ok es
  | some _ => .error (if last then .notSettable else .notNested)

/-- Set the entry at the end of a way of keys. -/
def setAt (m : Mapping) (v : Data) : List Text → Except OverrideFault Mapping
  | [] => .ok m
  | [k] => .ok (m.insert k v)
  | k :: ks => do
    let below ← m.inner k (ks.length == 1)
    return m.insert k (.map (← setAt below v ks))

end Mapping

namespace Settings

def overridePath (key : Text) : List Text := Text.splitText '.' key

/-- Apply one override. -/
def override (m : Mapping) (key : Text) (v : Data) : Except OverrideFault Mapping :=
  if v = .null then .ok m else m.setAt v (overridePath key)

def overrideEntry (m : Mapping) : Data × Data → Except OverrideFault Mapping
  | (_, .null) => .ok m
  | (.text key, v) => override m key v
  | _ => .error .noWay

def applyOverrides (m overrides : Mapping) : Except OverrideFault Mapping :=
  List.foldlM overrideEntry m overrides

/-! ### Documents -/

end Settings

namespace Document

/-- Write a part under a key of a mapping of the document. -/
def insert (doc : Document) (id : Nat) (k : Text) (p : Part) : Document :=
  match doc.get? id with
  | some (.map es) => doc.set id (.map (Assoc.insert Data.keyForm (.text k) p es))
  | _ => doc

def addUnder (doc : Document) (id : Nat) (k : Text) (m : Mapping) : Document :=
  (doc.add (.map (m.map fun e => (e.1, .own e.2)))).insert id k (.shared doc.size)

/-- The mapping under a key of a mapping, created if the key is missing; `last` says
    whether the entry to set lies in it. -/
def inner (doc : Document) (id : Nat) (k : Text) (last : Bool) :
    Except OverrideFault (Nat × Document) :=
  let fault := if last then OverrideFault.notSettable else .notNested
  match doc.part? (.shared id) (.text k) with
  | none => .ok (doc.size, doc.addUnder id k [])
  | some (.own (.map es)) => .ok (doc.size, doc.addUnder id k es)
  | some (.own _) => .error fault
  | some (.shared c) => if (doc.entries? (.shared c)).isSome then .ok (c, doc) else .error fault

/-- Set the entry at the end of a way of keys that starts in a mapping. -/
def setAt (doc : Document) (v : Data) : Nat → List Text → Except OverrideFault Document
  | _, [] => .ok doc
  | id, [k] => .ok (doc.insert id k (.own v))
  | id, k :: ks => do
    let (below, doc) ← doc.inner id k (ks.length == 1)
    setAt doc v below ks

end Document

namespace Settings

/-- Apply an entry of a mapping of overrides to a document that is a mapping. -/
def overrideIn (root : Nat) (doc : Document) : Data × Data → Except OverrideFault Document
  | (_, .null) => .ok doc
  | (.text key, v) => doc.setAt v root (overridePath key)
  | _ => .error .noWay

/-- The entries of a document after overrides.  Only where a collection is used twice
    do they reach further than in a plain mapping. -/
def overridden (doc : Document) (overrides : Mapping) : Except OverrideFault Mapping :=
  match doc.isTree, doc.root with
  | false, .shared root =>
    (List.foldlM (overrideIn root) doc overrides).map Document.entries
  | _, _ => applyOverrides doc.entries overrides

/-! ### What overrides nothing -/

@[simp] theorem override_null (m : Mapping) (key : Text) : override m key .null = .ok m := by
  simp [override]

/-- The same holds of an entry, whatever its key. -/
@[simp] theorem overrideEntry_null (m : Mapping) (key : Data) :
    overrideEntry m (key, .null) = .ok m := rfl

end Settings

end WorkflowPolicy
