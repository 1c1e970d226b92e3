/-
  WorkflowPolicy/Decimal/Reader.lean
  ==================================
  **Reading floating-point numbers.**  A text is digits with a point anywhere
  among them and an optional decimal exponent, or the name of a special value in
  any case.  The number is the one nearest to the decimal, whatever the count of
  digits.
-/
import WorkflowPolicy.Decimal.Binary64
import WorkflowPolicy.Text.Integer

namespace WorkflowPolicy.Binary64

open WorkflowPolicy.Text

/-! ### Parts of a decimal -/

/-- A run of digits, possibly empty, without its separators. -/
def digitRun? (cs : List Char) : Option (List Nat) :=
  match cs with
  | [] => some []
  | _ => if (digitsValue? digitValue? cs).isSome
         then some ((cs.filter (· != '_')).filterMap digitValue?) else none

def isExponentMark (c : Char) : Bool := c == 'e' || c == 'E'

def exponentOf? (cs : List Char) : Option Int :=
  let (negative, digits) := splitSign cs
  (digitsValue? digitValue? digits).map (applySign negative)

/-- The number of an unsigned decimal. -/
def ofDecimal? (negative : Bool) (cs : List Char) : Option Binary64 := do
  let mantissa := cs.takeWhile (!isExponentMark ·)
  let exponent ← match cs.dropWhile (!isExponentMark ·) with
    | [] => some 0
    | _ :: rest => exponentOf? rest
  let whole ← digitRun? (mantissa.takeWhile (· != '.'))
  let fraction ← digitRun? ((mantissa.dropWhile (· != '.')).drop 1)
  let digits := whole ++ fraction
  if digits.isEmpty then none
  else
    some (ofScientific negative (digits.foldl (fun n d => 10 * n + d) 0)
      (exponent - fraction.length))

def ofChars? (cs : List Char) : Option Binary64 :=
  let (negative, body) := splitSign (trimNumber cs)
  let name := String.ofList (body.map Char.toLower)
  if name = "inf" ∨ name = "infinity" then some (.infinity negative)
  else if name = "nan" then some .nan
  else ofDecimal? negative body

def ofText? (s : String) : Option Binary64 := ofChars? s.toList

example : ofText? "-0.0" = some (zero true) ∧ ofText? "1e" = none ∧ ofText? "." = none := by
  decide +kernel

end WorkflowPolicy.Binary64
