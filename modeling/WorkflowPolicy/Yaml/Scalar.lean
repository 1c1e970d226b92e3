/-
  WorkflowPolicy/Yaml/Scalar.lean
  ===============================
  **The value of a YAML scalar of a given type.**  A scalar whose spelling made it a
  number always has a value, up to a few spellings without a digit; one that an
  explicit tag calls a number or a boolean may have none, and the fault says which
  text was no value.
-/
import WorkflowPolicy.Decimal.Reader
import WorkflowPolicy.Moment
import WorkflowPolicy.Text.Base64
import WorkflowPolicy.Text.LetterCase
import WorkflowPolicy.Yaml.Fault
import WorkflowPolicy.Yaml.Tag

namespace WorkflowPolicy.Yaml

open WorkflowPolicy.Text

namespace Scalar

/-! ### Integers -/

/-- The value of a digit in bases up to 36. -/
def letterDigit? (c : Char) : Option Nat :=
  match digitValue? c with
  | some d => some d
  | none =>
    if 'a' ≤ c.toLower ∧ c.toLower ≤ 'z' then some (c.toLower.toNat - 'a'.toNat + 10) else none

/-- The letter that marks a base after a leading zero. -/
def baseLetter : Nat → Char
  | 2 => 'b'
  | 8 => 'o'
  | _ => 'x'

/-- Digits without the mark of their base. -/
def withoutMark (base : Nat) : List Char → List Char
  | '0' :: c :: rest => if c.toLower = baseLetter base then rest else '0' :: c :: rest
  | cs => cs

/-- The value of a run of at least one digit. -/
def digitsIn? (base : Nat) (cs : List Char) : Option Nat :=
  if cs.isEmpty then none
  else cs.foldlM (fun n c => (letterDigit? c).bind fun d =>
    if d < base then some (base * n + d) else none) 0

def integerIn? (base : Nat) (cs : List Char) : Option Int :=
  if base = 10 then integerOf? cs
  else
    let (negative, digits) := splitSign (trimNumber cs)
    (digitsIn? base (withoutMark base digits)).map (applySign negative)

/-- The integer of some digits, of which only decimal ones have a limit. -/
def integerIn (base : Nat) (cs : List CodePoint) : Except Fault Int :=
  match (Text.ofList cs).chars? with
  | none => .error (.notInteger base ⟨cs⟩)
  | some ds =>
    match integerIn? base ds with
    | some n =>
      if base = 10 ∧ hasTooManyDigits ds then .error (.overlong (countDigits ds)) else .ok n
    | none => .error (.notInteger base ⟨cs⟩)

/-- Places in sixties, the first one highest. -/
def sixties (places : List Int) : Int := places.foldl (fun n d => 60 * n + d) 0

/-- The value of an integer without its sign; the way it starts tells its base. -/
def unsignedInteger (cs : List CodePoint) : Except Fault Int :=
  match cs with
  | [] => .error .emptyNumber
  | ['0'] => .ok 0
  | '0' :: 'b' :: rest => integerIn 2 rest
  | '0' :: 'x' :: rest => integerIn 16 rest
  | '0' :: _ => integerIn 8 cs
  | _ =>
    if cs.contains (.char ':') then do
      let places ← (parts (.char ':') cs).mapM (integerIn 10)
      return sixties places
    else integerIn 10 cs

def withoutGaps (cs : List CodePoint) : List CodePoint := cs.filter (· != '_')

/-- The first code point of a number, which may be its sign, and what follows the sign. -/
def withoutSign (c : CodePoint) (rest : List CodePoint) : List CodePoint :=
  if c = '-' ∨ c = '+' then rest else c :: rest

def integer (s : Text) : Except Fault Data :=
  match withoutGaps s.toList with
  | [] => .error .emptyNumber
  | c :: rest => do
    let n ← unsignedInteger (withoutSign c rest)
    return .int (if c = '-' then -n else n)

/-! ### Floating-point numbers -/

def floatOf (cs : List CodePoint) : Except Fault Binary64 :=
  match (Text.ofList cs).chars?.bind Binary64.ofChars? with
  | some x => .ok x
  | none => .error (.notFloat ⟨cs⟩)

/-- Places in sixties, the last one first; every product and every sum is rounded.  A
    weight has to be a floating-point number itself. -/
def sixtiesFrom (weight : Nat) (sum : Binary64) : List Binary64 → Except Fault Binary64
  | [] => .ok sum
  | x :: rest =>
    match Binary64.ofInt weight with
    | .infinity _ => .error .tooLarge
    | w => sixtiesFrom (60 * weight) (sum.add (x.mul w)) rest

def unsignedFloat (cs : List CodePoint) : Except Fault Binary64 :=
  if cs = (".inf" : Text).toList then .ok (.infinity false)
  else if cs = (".nan" : Text).toList then .ok .nan
  else if cs.contains (.char ':') then do
    let places ← (parts (.char ':') cs).mapM floatOf
    sixtiesFrom 1 (Binary64.zero false) places.reverse
  else floatOf cs

def float (s : Text) : Except Fault Data :=
  match (lower ⟨withoutGaps s.toList⟩).toList with
  | [] => .error .emptyNumber
  | c :: rest => do
    let x ← unsignedFloat (withoutSign c rest)
    return .float (if c = '-' then x.neg else x)

/-! ### Points in time -/

def dateFault (w : WrittenMoment) : String :=
  if w.year = 0 then "year 0 is out of range"
  else if w.month = 0 ∨ 12 < w.month then "month must be in 1..12"
  else "day is out of range for month"

def date (w : WrittenMoment) : Except Fault Date :=
  match Date.of? w.year w.month w.day with
  | some d => if w.year = 0 then .error (.impossibleTime (dateFault w)) else .ok d
  | none => .error (.impossibleTime (dateFault w))

/-- No zone is a whole day away. -/
def checkZone : Option Int → Except Fault Unit
  | none => .ok ()
  | some minutes =>
    if minutes.natAbs < minutesPerDay then .ok ()
    else
      .error (.impossibleTime ("offset must be a timedelta strictly between "
        ++ "-timedelta(hours=24) and timedelta(hours=24), not " ++ Moment.spanLiteral minutes))

def clockFault (w : WrittenClock) : String :=
  if 24 ≤ w.hour then "hour must be in 0..23"
  else if 60 ≤ w.minute then "minute must be in 0..59"
  else "second must be in 0..59"

/-- The first six digits of a fraction, filled up with zeros. -/
def microseconds (fraction : List Char) : Nat :=
  (digitsValue? asciiDigit? ((fraction.take 6).rightpad 6 '0')).getD 0

def clock (w : WrittenClock) : Except Fault Clock :=
  match Clock.of? w.hour w.minute w.second (microseconds w.fraction) w.zone with
  | some c => .ok c
  | none => .error (.impossibleTime (clockFault w))

def moment (w : WrittenMoment) : Except Fault Moment :=
  match w.clock with
  | none => return { date := ← date w }
  | some c => do
    checkZone c.zone
    return { date := ← date w, clock := some (← clock c) }

/-- The point in time of a scalar, which may have a line feed behind it. -/
def timestamp (s : Text) : Except Fault Data :=
  match s.chars?.bind fun cs => WrittenMoment.ofChars? (Tag.withoutLastBreak cs) with
  | some w => return .moment (← moment w)
  | none => .error .notTime

/-! ### Booleans -/

def booleans : List (Text × Bool) :=
  [("yes", true), ("no", false), ("true", true), ("false", false), ("on", true), ("off", false)]

def boolean (s : Text) : Except Fault Data :=
  match booleans.find? fun e => e.1 == lower s with
  | some e => .ok (.bool e.2)
  | none => .error .notBoolean

/-! ### Bytes -/

/-- The bytes of a text in base 64, all of whose characters are in ASCII. -/
def binary (s : Text) : Except Fault Data := do
  let cs ← expect s.chars?
  if !cs.all (·.toNat < 0x80) then throw .malformed
  return .bytes (← expect (Base64.decode? cs))

/-! ### All types -/

def value (tag : Tag) (s : Text) : Except Fault Data :=
  match tag with
  | .null => .ok .null
  | .bool => boolean s
  | .int => integer s
  | .float => float s
  | .timestamp => timestamp s
  | .text => .ok (.text s)
  | .binary => binary s
  | .list | .map | .set | .pairs | .merge | .default | .foreign => .error .malformed

end Scalar

end WorkflowPolicy.Yaml
