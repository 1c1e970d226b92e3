/-
  WorkflowPolicy/Data.lean
  ========================
  **Decoded data.**  Frontmatter, settings and payloads are trees of nulls,
  booleans, integers, floating-point numbers, texts, lists and mappings.  A
  mapping keeps the order of its entries, and its keys are data too.

  YAML knows a few more kinds: points in time, bytes, sets, and pairs, which are the items
  of ordered mappings.  No setting takes them, but they may stand anywhere.  Data
  that contains itself is cut off where it does, so every tree is finite.

  Keys that are equal as numbers are one key: `true`, `1` and `1.0` name the
  same entry.  Every lookup of the library goes through `Mapping.get?`.
-/
import WorkflowPolicy.Assoc
import WorkflowPolicy.Decimal.Binary64
import WorkflowPolicy.Moment
import WorkflowPolicy.Text

namespace WorkflowPolicy

inductive Data where
  | null
  | bool (b : Bool)
  | int (n : Int)
  | float (x : Binary64)
  | text (s : Text)
  | list (items : List Data)
  | map (entries : List (Data × Data))
  | moment (m : Moment)
  | bytes (b : List UInt8)
  /-- Items without an order that counts; each of them occurs once. -/
  | set (items : List Data)
  | pair (first second : Data)
  /-- A list or a mapping that this place lies in. -/
  | enclosing (isMapping : Bool)
deriving Repr, Inhabited

namespace Data

/-! ### Equality -/

mutual

/-- Whether two values are equal as trees. -/
def same : Data → Data → Bool
  | .null, .null => true
  | .bool a, .bool b => a == b
  | .int a, .int b => a == b
  | .float a, .float b => decide (a = b)
  | .text a, .text b => a == b
  | .list xs, .list ys => sameItems xs ys
  | .map xs, .map ys => sameEntries xs ys
  | .moment a, .moment b => decide (a = b)
  | .bytes a, .bytes b => a == b
  | .set xs, .set ys => sameItems xs ys
  | .pair a b, .pair c d => same a c && same b d
  | .enclosing a, .enclosing b => a == b
  | _, _ => false

def sameItems : List Data → List Data → Bool
  | [], [] => true
  | x :: xs, y :: ys => same x y && sameItems xs ys
  | _, _ => false

def sameEntries : List (Data × Data) → List (Data × Data) → Bool
  | [], [] => true
  | (k, v) :: xs, (l, w) :: ys => same k l && same v w && sameEntries xs ys
  | _, _ => false

end

mutual

theorem same_iff : ∀ a b : Data, same a b = true ↔ a = b
  | .null, b => by cases b <;> simp [same]
  | .bool _, b => by cases b <;> simp [same]
  | .int _, b => by cases b <;> simp [same]
  | .float _, b => by cases b <;> simp [same]
  | .text _, b => by cases b <;> simp [same]
  | .list xs, b => by cases b <;> simp [same, sameItems_iff xs]
  | .map xs, b => by cases b <;> simp [same, sameEntries_iff xs]
  | .moment _, b => by cases b <;> simp [same]
  | .bytes _, b => by cases b <;> simp [same]
  | .set xs, b => by cases b <;> simp [same, sameItems_iff xs]
  | .pair x y, b => by cases b <;> simp [same, same_iff x, same_iff y]
  | .enclosing _, b => by cases b <;> simp [same]

theorem sameItems_iff : ∀ xs ys : List Data, sameItems xs ys = true ↔ xs = ys
  | [], ys => by cases ys <;> simp [sameItems]
  | x :: xs, ys => by cases ys <;> simp [sameItems, same_iff x, sameItems_iff xs]

theorem sameEntries_iff :
    ∀ xs ys : List (Data × Data), sameEntries xs ys = true ↔ xs = ys
  | [], ys => by cases ys <;> simp [sameEntries]
  | (k, v) :: xs, ys => by
    cases ys with
    | nil => simp [sameEntries]
    | cons y ys =>
      obtain ⟨l, w⟩ := y
      simp [sameEntries, same_iff k, same_iff v, sameEntries_iff xs]

end

instance : DecidableEq Data := fun a b => decidable_of_iff _ (same_iff a b)

instance : Coe Text Data := ⟨.text⟩

/-! ### Keys -/

/-- The form in which a value acts as a key: booleans and whole floating-point
    numbers act as the integers that they equal, and clocks as one in Greenwich. -/
def keyForm : Data → Data
  | .bool b => .int (if b then 1 else 0)
  | .float x =>
    match x.toInt? with
    | some n => .int n
    | none => .float x
  | .moment m => .moment m.inGreenwich
  | d => d

@[simp] theorem keyForm_text (s : Text) : keyForm (.text s) = .text s := rfl

theorem keyForm_eq_text {d : Data} {s : Text} : keyForm d = .text s ↔ d = .text s := by
  cases d with
  | float x => cases h : x.toInt? <;> simp [keyForm, h]
  | bool b => simp [keyForm]
  | moment m => simp [keyForm]
  | _ => simp [keyForm]

end Data

/-! ### Mappings of data -/

abbrev Mapping := List (Data × Data)

namespace Mapping

def get? (m : Mapping) (k : Data) : Option Data := Assoc.get? Data.keyForm k m

def contains (m : Mapping) (k : Data) : Bool := (m.get? k).isSome

def insert (m : Mapping) (k v : Data) : Mapping := Assoc.insert Data.keyForm k v m

def erase (m : Mapping) (k : Data) : Mapping := Assoc.erase Data.keyForm k m

def ofList (entries : List (Data × Data)) : Mapping := Assoc.ofList Data.keyForm entries

/-- The value under a key, null when it is absent. -/
def value (m : Mapping) (k : Data) : Data := (m.get? k).getD .null

def strangeKeys (m : Mapping) : List Data :=
  (m.map (·.1)).filter fun k => match k with | .text _ => false | _ => true

end Mapping

abbrev Fields (α : Type) := List (Text × α)

namespace Fields

variable {α : Type}

def get? (m : Fields α) (k : Text) : Option α := Assoc.get? id k m

def contains (m : Fields α) (k : Text) : Bool := (m.get? k).isSome

def insert (m : Fields α) (k : Text) (v : α) : Fields α := Assoc.insert id k v m

def ofList (entries : List (Text × α)) : Fields α := Assoc.ofList id entries

def keys (m : Fields α) : List Text := m.map (·.1)

end Fields

namespace Data

def ofFields (m : Fields Data) : Data := .map (m.map fun e => (.text e.1, e.2))

def ofTexts (l : List Text) : Data := .list (l.map .text)

def ofTextFields (m : Fields Text) : Data := .map (m.map fun e => (.text e.1, .text e.2))

/-- Whether a value counts as present: not null, false, zero, or empty. -/
def isPresent : Data → Bool
  | .null => false
  | .bool b => b
  | .int n => n != 0
  | .float (.finite _ m _) => m != 0
  | .float _ => true
  | .text s => s != ""
  | .list xs | .set xs => !xs.isEmpty
  | .map es => !es.isEmpty
  | .bytes b => !b.isEmpty
  | .moment _ | .pair _ _ | .enclosing _ => true

end Data

end WorkflowPolicy
