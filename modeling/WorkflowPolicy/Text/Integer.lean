/-
  WorkflowPolicy/Text/Integer.lean
  ================================
  **Integers as people write them.**  Blanks around the number are ignored, one
  sign may stand in front, leading zeros mean nothing, and a single underscore
  may separate two digits.
-/
import WorkflowPolicy.Text.Blank
import WorkflowPolicy.Text.Digit

namespace WorkflowPolicy.Text

/-! ### Digits -/

/-- The value of a run of digits read after `acc`; a single underscore may stand
    before each of them. -/
def digitsAfter (digit : Char → Option Nat) (acc : Nat) : List Char → Option Nat
  | [] => some acc
  | '_' :: c :: rest =>
    match digit c with
    | some d => digitsAfter digit (10 * acc + d) rest
    | none => none
  | c :: rest =>
    match digit c with
    | some d => digitsAfter digit (10 * acc + d) rest
    | none => none

/-- The value of a run of at least one digit. -/
def digitsValue? (digit : Char → Option Nat) : List Char → Option Nat
  | [] => none
  | c :: rest => (digit c).bind fun d => digitsAfter digit d rest

/-! ### Signs -/

/-- Whether a minus sign stands in front, and what follows the sign. -/
def splitSign : List Char → Bool × List Char
  | '-' :: rest => (true, rest)
  | '+' :: rest => (false, rest)
  | cs => (false, cs)

def applySign (negative : Bool) (n : Nat) : Int := if negative then -n else n

/-- The integer of a text, in the digits of any script. -/
def integerOf? (cs : List Char) : Option Int :=
  let (negative, digits) := splitSign (trimNumber cs)
  (digitsValue? digitValue? digits).map (applySign negative)

/-- The integer of a text that has not too many digits. -/
def integer? (s : Text) : Option Int :=
  s.chars?.bind fun cs => if hasTooManyDigits cs then none else integerOf? cs

/-! ### Digit strings -/

/-- A minus sign or nothing, then one or more ASCII digits and nothing else. -/
def isDigitString : List Char → Bool
  | '-' :: rest => !rest.isEmpty && rest.all isAsciiDigit
  | cs => !cs.isEmpty && cs.all isAsciiDigit

/-- The value of a digit string; no blanks, plus signs or underscores. -/
def digitString? (s : Text) : Option Int :=
  s.chars?.bind fun cs => if isDigitString cs then integerOf? cs else none

example : integer? " +1_000 " = some 1000 ∧ integer? "1__0" = none
    ∧ integer? "-007" = some (-7) := by
  decide +kernel

end WorkflowPolicy.Text
