/-
  WorkflowPolicy/Text/Blank.lean
  ==============================
  **Blank characters.**  The characters that separate without showing: the
  Unicode space separators, the ASCII controls that move the cursor and the four
  information separators.  Stripping removes them at both ends of a text.
-/
import WorkflowPolicy.Text

namespace WorkflowPolicy.Text

/-- The blank characters as ranges of code points, in order. -/
def blankRanges : List (Nat × Nat) :=
  [(0x09, 0x0D), (0x1C, 0x20), (0x85, 0x85), (0xA0, 0xA0), (0x1680, 0x1680),
   (0x2000, 0x200A), (0x2028, 0x2029), (0x202F, 0x202F), (0x205F, 0x205F),
   (0x3000, 0x3000)]

def inRanges (ranges : List (Nat × Nat)) (n : Nat) : Bool :=
  ranges.any fun r => decide (r.1 ≤ n) && decide (n ≤ r.2)

def isBlank (c : CodePoint) : Bool := inRanges blankRanges c.toNat

/-! ### Stripping -/

def dropBlanks (cs : List CodePoint) : List CodePoint := cs.dropWhile isBlank

/-- A text without the blanks at its two ends. -/
def strip (s : Text) : Text := ⟨(dropBlanks (dropBlanks s.toList).reverse).reverse⟩

/-- A text without the blanks at its end. -/
def stripEnd (s : Text) : Text := ⟨(dropBlanks s.toList.reverse).reverse⟩

/-! ### Numbers -/

/-- A blank that may stand around a number; the information separators may not. -/
def isNumberBlank (c : Char) : Bool :=
  isBlank c && !(decide (0x1C ≤ c.toNat) && decide (c.toNat ≤ 0x1F))

def trimNumber (cs : List Char) : List Char :=
  ((cs.dropWhile isNumberBlank).reverse.dropWhile isNumberBlank).reverse

example : strip "\u2003 ---\t\x1f" = "---" := by decide +kernel

end WorkflowPolicy.Text
