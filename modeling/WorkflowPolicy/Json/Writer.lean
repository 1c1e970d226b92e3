/-
  WorkflowPolicy/Json/Writer.lean
  ===============================
  **JSON text.**  Data is written either on one line, with a space after every
  separator, or over several lines with two spaces per level.  Keys are always
  strings; a key that is no text is written as the JSON of its value.

  A pair is written as a list; points in time, bytes and sets, which JSON does not know,
  as the text that shows them.  `fault?` tells which data has no JSON at all.
-/
import WorkflowPolicy.Data.Display
import WorkflowPolicy.Decimal.Layout
import WorkflowPolicy.Json.Quoted

namespace WorkflowPolicy.Json

/-! ### Keys -/

/-- The word or the number of a value that is no text and no collection. -/
def word : Data → String
  | .bool b => if b then "true" else "false"
  | .null => "null"
  | .int n => Decimal.ofInt n
  | .float x => Decimal.json.write x
  | _ => ""

def keyText : Data → Text
  | .text s => s
  | d => word d

/-- A value that is written as one word or text. -/
def scalar : Data → String
  | .text s => encode s
  | .moment m => encode m.text
  | .bytes b => encode (Data.bytes b).literal
  | .set xs => encode (Data.set xs).literal
  | d => word d

/-! ### On one line -/

mutual

def compact : Data → String
  | .list xs => "[" ++ ", ".intercalate (compactItems xs) ++ "]"
  | .map es => "\x7b" ++ ", ".intercalate (compactEntries es) ++ "\x7d"
  | .pair a b => "[" ++ ", ".intercalate [compact a, compact b] ++ "]"
  | d => scalar d

def compactItems : List Data → List String
  | [] => []
  | x :: xs => compact x :: compactItems xs

def compactEntries : List (Data × Data) → List String
  | [] => []
  | (k, v) :: es => (encode (keyText k) ++ ": " ++ compact v) :: compactEntries es

end

/-! ### Sorted keys -/

/-- Entries in the order of their key texts by code point. -/
def sortEntries (es : List (Data × Data)) : List (Data × Data) :=
  es.mergeSort fun a b => !decide (keyText b.1 < keyText a.1)

mutual

/-- The same value with the entries of every mapping in sorted order. -/
def sorted : Data → Data
  | .list xs => .list (sortedItems xs)
  | .map es => .map (sortEntries (sortedEntries es))
  | d => d

def sortedItems : List Data → List Data
  | [] => []
  | x :: xs => sorted x :: sortedItems xs

def sortedEntries : List (Data × Data) → List (Data × Data)
  | [] => []
  | (k, v) :: es => (k, sorted v) :: sortedEntries es

end

def compactSorted (d : Data) : String := compact (sorted d)

/-! ### Over several lines -/

def lineBreak (level : Nat) : String := "\n" ++ String.ofList (List.replicate (2 * level) ' ')

mutual

/-- A value over several lines, from the given level on. -/
def indentedAt (level : Nat) : Data → String
  | .list [] => "[]"
  | .map [] => "\x7b\x7d"
  | .list (x :: xs) =>
    "[" ++ lineBreak (level + 1)
      ++ ("," ++ lineBreak (level + 1)).intercalate (indentedItems (level + 1) (x :: xs))
      ++ lineBreak level ++ "]"
  | .map (e :: es) =>
    "\x7b" ++ lineBreak (level + 1)
      ++ ("," ++ lineBreak (level + 1)).intercalate (indentedEntries (level + 1) (e :: es))
      ++ lineBreak level ++ "\x7d"
  | .pair a b =>
    "[" ++ lineBreak (level + 1) ++ indentedAt (level + 1) a
      ++ "," ++ lineBreak (level + 1) ++ indentedAt (level + 1) b ++ lineBreak level ++ "]"
  | d => scalar d

def indentedItems (level : Nat) : List Data → List String
  | [] => []
  | x :: xs => indentedAt level x :: indentedItems level xs

def indentedEntries (level : Nat) : List (Data × Data) → List String
  | [] => []
  | (k, v) :: es =>
    (encode (keyText k) ++ ": " ++ indentedAt level v) :: indentedEntries level es

end

def indented (d : Data) : String := indentedAt 0 d

/-! ### Data without JSON -/

inductive Fault where
  /-- A key that is no word and no text. -/
  | strangeKey
  /-- A collection inside itself. -/
  | endless
  /-- An integer with too many digits. -/
  | overlong
deriving DecidableEq, Repr

def tooLong? (d : Data) : Option Fault := if d.isShowable then none else some .overlong

/-- Why a value is no key. -/
def keyFault? : Data → Option Fault
  | .null | .bool _ | .float _ | .text _ => none
  | .int n => tooLong? (.int n)
  | _ => some .strangeKey

mutual

/-- The first place that cannot be written. -/
def fault? : Data → Option Fault
  | .int n => tooLong? (.int n)
  | .set xs => tooLong? (.set xs)
  | .list xs => itemsFault? xs
  | .map es => entriesFault? es
  | .pair a b => (fault? a).or (fault? b)
  | .enclosing _ => some .endless
  | _ => none

def itemsFault? : List Data → Option Fault
  | [] => none
  | x :: xs => (fault? x).or (itemsFault? xs)

def entriesFault? : List (Data × Data) → Option Fault
  | [] => none
  | (k, v) :: es => (keyFault? k).or ((fault? v).or (entriesFault? es))

end

end WorkflowPolicy.Json
