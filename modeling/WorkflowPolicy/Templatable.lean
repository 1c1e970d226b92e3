/-
  WorkflowPolicy/Templatable.lean
  ===============================
  **Values that a job may compute.**  A templatable setting holds either a
  literal or an expression `${{ … }}` that is evaluated when the job
  runs.  Both forms are stored as text: a literal in its canonical spelling, an
  expression as it was written.

  An expression never reads as a literal, so the stored text determines the
  setting.
-/
import WorkflowPolicy.Data.Shape
import WorkflowPolicy.Text.Integer

namespace WorkflowPolicy

open WorkflowPolicy.Text

/-- A literal, or an expression by its text. -/
inductive Templatable (α : Type) where
  | literal (a : α)
  | expression (source : Text)
deriving DecidableEq, Repr, Inhabited

namespace Templatable

/-! ### Expressions -/

/-- Whether a text is an expression: it opens with a dollar sign and two braces
    and closes with two braces. -/
def isExpression (s : Text) : Bool :=
  ("$\x7b\x7b" : Text).isPrefixOf s && ("\x7d\x7d" : Text).isSuffixOf s

def expression? : Data → Option Text
  | .text s => if isExpression s then some s else none
  | _ => none

/-! ### Integers -/

/-- Read an integer or an expression.  Digit strings count as integers, and
    fractions are cut toward zero; any other text is refused. -/
def integer? (d : Data) : Option (Templatable Int) :=
  match expression? d with
  | some s => some (.expression s)
  | none =>
    match d with
    | .text s => (digitString? s).map .literal
    | _ => d.number?.map .literal

/-- Whether a raw integer has more digits than are read or put into text. -/
def isOverlong : Data → Bool
  | .text s => s.chars?.any fun cs => isDigitString cs && hasTooManyDigits cs
  | d => d.isLongNumber

def integerText : Templatable Int → Text
  | .literal n => Decimal.ofInt n
  | .expression s => s

def ofIntegerText (s : Text) : Templatable Int :=
  match Text.integer? s with
  | some n => .literal n
  | none => .expression s

def number? : Templatable Int → Option Int
  | .literal n => some n
  | .expression _ => none

/-- An integer setting as an author would write it. -/
def integerData : Templatable Int → Data
  | .literal n => .int n
  | .expression s => .text s

/-- An integer setting for a handler.  A limit that is not positive means no
    limit and is left out. -/
def limitData? : Templatable Int → Option Data
  | .literal n => if 0 < n then some (.int n) else none
  | .expression s => some (.text s)

/-! ### Booleans -/

/-- Read a boolean or an expression; the two words are accepted for the boolean. -/
def flag? : Data → Option (Templatable Bool)
  | .bool b => some (.literal b)
  | .text s =>
    if s = "true" then some (.literal true)
    else if s = "false" then some (.literal false)
    else if isExpression s then some (.expression s)
    else none
  | _ => none

def flagText : Templatable Bool → Text
  | .literal b => if b then "true" else "false"
  | .expression s => s

def ofFlagText (s : Text) : Templatable Bool :=
  if s = "true" then .literal true
  else if s = "false" then .literal false
  else .expression s

/-- A boolean setting as an author would write it, and as handlers read it. -/
def flagData : Templatable Bool → Data
  | .literal b => .bool b
  | .expression s => .text s

/-! ### Reading back -/

theorem flag?_flagData {d : Data} {t : Templatable Bool} (h : flag? d = some t) :
    flag? t.flagData = some t := by
  cases d with
  | bool b => simp [flag?] at h; subst h; rfl
  | text s =>
    simp only [flag?] at h
    split at h
    · cases h; rfl
    · split at h
      · cases h; rfl
      · rename_i h₁ h₂
        by_cases h₃ : isExpression s = true
        · simp [h₃] at h; subst h; simp [flagData, flag?, h₁, h₂, h₃]
        · simp [h₃] at h
  | _ => simp [flag?] at h

end Templatable

end WorkflowPolicy
