/-
  WorkflowPolicy/Yaml/Fault.lean
  ==============================
  **Why a YAML text gives no data.**  Nearly every fault is a malformed text.  The
  others come from scalars: an explicit tag calls a text something that it is not, a
  number has no digit or too many, a point in time is on no calendar, or an escape names
  no character.
-/
import WorkflowPolicy.Data.Display

namespace WorkflowPolicy.Yaml

inductive Fault where
  /-- The text is not YAML, or a node cannot stand where it stands. -/
  | malformed
  /-- The text holds a character that no text may hold. -/
  | strangeCharacter
  /-- A text that had to be an integer of the given base. -/
  | notInteger (base : Nat) (text : Text)
  /-- A decimal integer with too many digits. -/
  | overlong (digits : Nat)
  | notFloat (text : Text)
  /-- A number in sixties with too many places. -/
  | tooLarge
  | emptyNumber
  | notBoolean
  | notTime
  /-- A date that the calendar does not have, or a time that no clock shows. -/
  | impossibleTime (text : String)
  /-- A number beyond the last character. -/
  | notCharacter (code : Nat)
  /-- Nodes in nodes beyond the deepest level, or without end. -/
  | tooDeep
deriving DecidableEq, Repr

/-- The text of a fault, for those that are reported by one of their own. -/
def Fault.message? : Fault → Option String
  | .notInteger base s =>
    some ("invalid literal for int() with base " ++ Decimal.ofInt base ++ ": " ++ Data.quoted s)
  | .notFloat s => some ("could not convert string to float: " ++ Data.quoted s)
  | .notCharacter n => if n < 0x80000000 then some "chr() arg not in range(0x110000)" else none
  | .overlong digits => some (Text.tooManyDigits digits)
  | .impossibleTime text => some text
  | .malformed | .strangeCharacter | .tooLarge | .emptyNumber | .notBoolean | .notTime
  | .tooDeep => none

/-- What is there, or a malformed text. -/
def expect {α : Type} : Option α → Except Fault α
  | some a => .ok a
  | none => .error .malformed

end WorkflowPolicy.Yaml
