/-
  WorkflowPolicy/Text/Escape.lean
  ===============================
  **Hexadecimal escapes.**  Characters that a format cannot hold are written by
  their code point in a fixed number of lower-case or upper-case digits.
-/
import WorkflowPolicy.Text

namespace WorkflowPolicy.Text

/-- The lower-case hexadecimal digits of a number, at least `width` of them. -/
def hexDigits (width n : Nat) : List Char :=
  let digits := Nat.toDigits 16 n
  List.replicate (width - digits.length) '0' ++ digits

/-- A backslash, a letter that tells the width, and the code point. -/
def hexEscape (letter : Char) (width n : Nat) : List Char :=
  '\\' :: letter :: hexDigits width n

def escapedHalf : CodePoint → List Char
  | .char c => [c]
  | c => hexEscape 'u' 4 c.toNat

/-- A text as it is encoded where that must not fail: what is no character is escaped. -/
def encoded (s : Text) : String := String.ofList (s.toList.flatMap escapedHalf)

@[simp] theorem encoded_ofString (s : String) : encoded (ofString s) = s := by
  have hchars : s.toList.flatMap (fun c => escapedHalf (.char c)) = s.toList :=
    List.flatMap_singleton' s.toList
  rw [encoded, toList_ofString, List.flatMap_map, hchars, String.ofList_toList]

def hexValue? (c : Char) : Option Nat :=
  if '0' ≤ c ∧ c ≤ '9' then some (c.toNat - 48)
  else if 'a' ≤ c ∧ c ≤ 'f' then some (c.toNat - 87)
  else if 'A' ≤ c ∧ c ≤ 'F' then some (c.toNat - 55)
  else none

def hexNumber? (cs : List Char) : Option Nat :=
  cs.foldlM (fun n c => (hexValue? c).map (16 * n + ·)) 0

end WorkflowPolicy.Text
