/-
  WorkflowPolicy/Yaml/Timestamp.lean
  ==================================
  **Points in time as YAML writes them.**  A date with dashes between its numbers, and
  perhaps a time and a zone behind it.  What has this form need be no date: the calendar
  and the clock decide that afterwards.
-/
import WorkflowPolicy.Text.Integer

namespace WorkflowPolicy.Yaml

open WorkflowPolicy.Text

/-- The numbers of a point in time as they are written. -/
structure WrittenClock where
  hour : Nat
  minute : Nat
  second : Nat
  /-- The digits behind the point. -/
  fraction : List Char
  /-- The minutes by which the zone is ahead, if one is written. -/
  zone : Option Int

structure WrittenMoment where
  year : Nat
  month : Nat
  day : Nat
  clock : Option WrittenClock := none

namespace WrittenMoment

/-! ### Form -/

/-- The number of so many digits, as many as there are, and what follows it. -/
def numberAt? (least most : Nat) (cs : List Char) : Option (Nat × List Char) :=
  let digits := (cs.takeWhile isAsciiDigit).take most
  if least ≤ digits.length then
    (digitsValue? asciiDigit? digits).map (·, cs.drop digits.length)
  else none

/-- What follows a character that stands here. -/
def after? (c : Char) : List Char → Option (List Char)
  | d :: rest => if d = c then some rest else none
  | [] => none

def isBlankOrTab (c : Char) : Bool := c == ' ' || c == '\t'

/-- What follows the mark between a date and a time. -/
def afterTimeMark? : List Char → Option (List Char)
  | 'T' :: rest | 't' :: rest => some rest
  | cs => if (cs.takeWhile isBlankOrTab).isEmpty then none else some (cs.dropWhile isBlankOrTab)

/-- The minutes of a zone behind its sign. -/
def offset? (cs : List Char) : Option Int := do
  let (hours, cs) ← numberAt? 1 2 cs
  if cs.isEmpty then return 60 * hours
  let (minutes, cs) ← numberAt? 2 2 (← after? ':' cs)
  if cs.isEmpty then return 60 * hours + minutes else none

/-- The zone that is written at the end, or none where nothing is. -/
def zone? (cs : List Char) : Option (Option Int) :=
  if cs.isEmpty then some none
  else
    match cs.dropWhile isBlankOrTab with
    | ['Z'] => some (some 0)
    | '+' :: rest => (offset? rest).map some
    | '-' :: rest => (offset? rest).map fun minutes => some (-minutes)
    | _ => none

def clock? (cs : List Char) : Option WrittenClock := do
  let (hour, cs) ← numberAt? 1 2 cs
  let (minute, cs) ← numberAt? 2 2 (← after? ':' cs)
  let (second, cs) ← numberAt? 2 2 (← after? ':' cs)
  let (fraction, cs) := match cs with
    | '.' :: rest => (rest.takeWhile isAsciiDigit, rest.dropWhile isAsciiDigit)
    | _ => ([], cs)
  return ⟨hour, minute, second, fraction, ← zone? cs⟩

def ofChars? (cs : List Char) : Option WrittenMoment := do
  let (year, cs) ← numberAt? 4 4 cs
  let (month, cs) ← numberAt? 1 2 (← after? '-' cs)
  let (day, cs) ← numberAt? 1 2 (← after? '-' cs)
  if cs.isEmpty then return ⟨year, month, day, none⟩
  return ⟨year, month, day, some (← clock? (← afterTimeMark? cs))⟩

/-- Whether a scalar without quotes is a point in time.  A date alone has all its digits. -/
def isPlain (cs : List Char) : Bool :=
  (ofChars? cs).any fun w => w.clock.isSome || cs.length == 10

end WrittenMoment

end WorkflowPolicy.Yaml
