/-
  WorkflowPolicy/Data/Display.lean
  ================================
  **Values in messages.**  A text stands for itself, a point in time is shown in plain
  notation, and every other value as a literal: `None`, `True`, numbers in plain
  notation, and lists and mappings in brackets with quoted texts inside.  Dots stand for
  a list or mapping inside itself.  Literals have characters only: whatever else a text
  has is escaped.

  Data that holds an integer with too many digits is not shown: `isShowable` tells
  it from the data that `display` shows.
-/
import WorkflowPolicy.Data
import WorkflowPolicy.Decimal.Layout
import WorkflowPolicy.Text.Escape
import WorkflowPolicy.Text.Printable

namespace WorkflowPolicy

open WorkflowPolicy.Text

namespace Data

/-! ### Quoted texts -/

/-- One character of a quoted text.  Characters that do not show are escaped in
    the shortest of three widths. -/
def quotedChar (quote c : Char) : List Char :=
  if c = quote ∨ c = '\\' then ['\\', c]
  else if c = '\n' then ['\\', 'n']
  else if c = '\r' then ['\\', 'r']
  else if c = '\t' then ['\\', 't']
  else if isPrintable c then [c]
  else if c.toNat < 0x100 then hexEscape 'x' 2 c.toNat
  else if c.toNat < 0x10000 then hexEscape 'u' 4 c.toNat
  else hexEscape 'U' 8 c.toNat

def quotedCode (quote : Char) : CodePoint → List Char
  | .char c => quotedChar quote c
  | c => hexEscape 'u' 4 c.toNat

/-- Single quotes, unless the text has a single quote and no double quote. -/
def quoteFor (cs : List CodePoint) : Char :=
  if cs.contains '\'' && !cs.contains '"' then '"' else '\''

def quoted (s : Text) : String :=
  let quote := quoteFor s.toList
  String.ofList ([quote] ++ s.toList.flatMap (quotedCode quote) ++ [quote])

/-! ### Quoted bytes -/

/-- One byte of a literal, as a character if it is a printable one of ASCII. -/
def quotedByte (quote : Char) (b : UInt8) : List Char :=
  let c := Char.ofNat b.toNat
  if b < 0x80 then quotedChar quote c else hexEscape 'x' 2 b.toNat

/-- Bytes as a literal: a quoted text behind a letter. -/
def quotedBytes (bs : List UInt8) : String :=
  let quote := quoteFor (bs.map fun b => .char (Char.ofNat b.toNat))
  String.ofList (['b', quote] ++ bs.flatMap (quotedByte quote) ++ [quote])

/-! ### Literals -/

def boolName (b : Bool) : String := if b then "True" else "False"

mutual

def literal : Data → String
  | .null => "None"
  | .bool b => boolName b
  | .int n => Decimal.ofInt n
  | .float x => Decimal.plain.write x
  | .text s => quoted s
  | .list xs => "[" ++ ", ".intercalate (itemLiterals xs) ++ "]"
  | .map es => "\x7b" ++ ", ".intercalate (entryLiterals es) ++ "\x7d"
  | .moment m => m.literal
  | .bytes bs => quotedBytes bs
  | .set [] => "set()"
  | .set (x :: xs) => "\x7b" ++ ", ".intercalate (itemLiterals (x :: xs)) ++ "\x7d"
  | .pair a b => "(" ++ literal a ++ ", " ++ literal b ++ ")"
  | .enclosing isMapping => if isMapping then "\x7b...\x7d" else "[...]"

def itemLiterals : List Data → List String
  | [] => []
  | x :: xs => literal x :: itemLiterals xs

def entryLiterals : List (Data × Data) → List String
  | [] => []
  | (k, v) :: es => (literal k ++ ": " ++ literal v) :: entryLiterals es

end

def display : Data → Text
  | .text s => s
  | .moment m => m.text
  | d => literal d

mutual

/-- Whether every integer in a value has few enough digits to be shown. -/
def isShowable : Data → Bool
  | .int n => Decimal.isWritable n
  | .list xs | .set xs => itemsShowable xs
  | .map es => entriesShowable es
  | .pair a b => isShowable a && isShowable b
  | _ => true

def itemsShowable : List Data → Bool
  | [] => true
  | x :: xs => isShowable x && itemsShowable xs

def entriesShowable : List (Data × Data) → Bool
  | [] => true
  | (k, v) :: es => isShowable k && isShowable v && entriesShowable es

end

def kindName : Data → String
  | .null => "NoneType"
  | .bool _ => "bool"
  | .int _ => "int"
  | .float _ => "float"
  | .text _ => "str"
  | .list _ => "list"
  | .map _ => "dict"
  | .moment m => if m.clock.isSome then "datetime" else "date"
  | .bytes _ => "bytes"
  | .set _ => "set"
  | .pair _ _ => "tuple"
  | .enclosing isMapping => if isMapping then "dict" else "list"

@[simp] theorem display_text (s : Text) : (Data.text s).display = s := rfl

end Data

end WorkflowPolicy
