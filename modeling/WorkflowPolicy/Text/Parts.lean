/-
  WorkflowPolicy/Text/Parts.lean
  ==============================
  **Parts between separators.**  A text has one part more than it has separators, so
  the empty text has one empty part, and joining the parts gives the text back.
-/
import WorkflowPolicy.Text

namespace WorkflowPolicy.Text

variable {α : Type} [DecidableEq α]

/-- The parts of a row between the occurrences of a separator. -/
def parts (separator : α) : List α → List (List α)
  | [] => [[]]
  | c :: rest =>
    if c == separator then [] :: parts separator rest
    else
      match parts separator rest with
      | p :: ps => (c :: p) :: ps
      | [] => [[c]]

def splitString (separator : Char) (s : String) : List String :=
  (parts separator s.toList).map String.ofList

def splitText (separator : CodePoint) (s : Text) : List Text :=
  (parts separator s.toList).map .ofList

theorem parts_ne_nil (separator : α) (cs : List α) : parts separator cs ≠ [] := by
  cases cs with
  | nil => simp [parts]
  | cons c rest =>
    unfold parts
    split
    · simp
    · split <;> simp

/-- Joining the parts gives the text back. -/
theorem intercalate_parts (separator : α) (cs : List α) :
    [separator].intercalate (parts separator cs) = cs := by
  induction cs with
  | nil => rfl
  | cons c rest ih =>
    have hne := parts_ne_nil separator rest
    unfold parts
    cases h : parts separator rest with
    | nil => exact absurd h hne
    | cons p ps =>
      rw [h] at ih
      by_cases hc : c = separator
      · subst hc
        cases ps <;> simp_all [List.intercalate, List.intersperse]
      · cases ps <;> simp_all [List.intercalate, List.intersperse]

end WorkflowPolicy.Text
