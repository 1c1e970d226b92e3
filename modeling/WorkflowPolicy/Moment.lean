/-
  WorkflowPolicy/Moment.lean
  ==========================
  **Points in time.**  A moment is a date of the Gregorian calendar, alone or with the
  time that a clock shows on it; a clock may know how far its zone is from that of
  Greenwich.

  Two moments with a zone are the same if they are in Greenwich, wherever else their
  clocks are.
-/
import WorkflowPolicy.Decimal.Layout

namespace WorkflowPolicy

/-! ### Dates -/

def isLeap (year : Nat) : Bool := year % 4 == 0 && (year % 100 != 0 || year % 400 == 0)

def daysIn (year month : Nat) : Nat :=
  if month = 2 then (if isLeap year then 29 else 28)
  else if month = 4 ∨ month = 6 ∨ month = 9 ∨ month = 11 then 30
  else 31

structure Date where
  year : Nat
  month : Nat
  day : Nat
  valid : (1 ≤ month ∧ month ≤ 12) ∧ 1 ≤ day ∧ day ≤ daysIn year month
deriving DecidableEq, Repr

namespace Date

def of? (year month day : Nat) : Option Date :=
  if h : (1 ≤ month ∧ month ≤ 12) ∧ 1 ≤ day ∧ day ≤ daysIn year month then
    some ⟨year, month, day, h⟩
  else none

def next (d : Date) : Date :=
  ((of? d.year d.month (d.day + 1)).or ((of? d.year (d.month + 1) 1).or
    (of? (d.year + 1) 1 1))).getD d

def previous (d : Date) : Date :=
  ((of? d.year d.month (d.day - 1)).or
    ((of? d.year (d.month - 1) (daysIn d.year (d.month - 1))).or
      (of? (d.year - 1) 12 31))).getD d

end Date

/-! ### Clocks -/

def minutesPerDay : Nat := 1440

structure Clock where
  hour : Nat
  minute : Nat
  second : Nat
  microsecond : Nat
  /-- The minutes by which the zone is ahead of Greenwich. -/
  zone : Option Int
  valid : hour < 24 ∧ minute < 60 ∧ second < 60 ∧ microsecond < 1000000
deriving DecidableEq, Repr

def Clock.of? (hour minute second microsecond : Nat) (zone : Option Int) : Option Clock :=
  if h : hour < 24 ∧ minute < 60 ∧ second < 60 ∧ microsecond < 1000000 then
    some ⟨hour, minute, second, microsecond, zone, h⟩
  else none

/-! ### Moments -/

structure Moment where
  date : Date
  clock : Option Clock := none
deriving DecidableEq, Repr

namespace Moment

/-- The date that a moment has where the clock has passed the given minutes. -/
def dateAt (d : Date) (minutes : Int) : Date :=
  if minutes < 0 then d.previous
  else if minutesPerDay ≤ minutes then d.next
  else d

/-- The moment as it is in Greenwich, if its clock knows where it is.  No zone is a whole
    day away. -/
def inGreenwich (m : Moment) : Moment :=
  match m.clock with
  | some ⟨hour, minute, second, microsecond, some zone, _⟩ =>
    let minutes : Int := 60 * hour + minute - zone
    let ofDay := (minutes % minutesPerDay).toNat
    ⟨dateAt m.date minutes, Clock.of? (ofDay / 60) (ofDay % 60) second microsecond (some 0)⟩
  | _ => m

/-! ### Texts -/

def padded (width n : Nat) : String :=
  String.ofList (Decimal.padLeft width (Nat.toDigits 10 n))

def dateText (d : Date) : String :=
  "-".intercalate [padded 4 d.year, padded 2 d.month, padded 2 d.day]

def zoneText (minutes : Int) : String :=
  (if minutes < 0 then "-" else "+") ++ padded 2 (minutes.natAbs / 60) ++ ":"
    ++ padded 2 (minutes.natAbs % 60)

def clockText (c : Clock) : String :=
  ":".intercalate [padded 2 c.hour, padded 2 c.minute, padded 2 c.second]
    ++ (if c.microsecond = 0 then "" else "." ++ padded 6 c.microsecond)
    ++ (c.zone.map zoneText).getD ""

/-- A moment in plain notation. -/
def text (m : Moment) : String :=
  match m.clock with
  | none => dateText m.date
  | some c => dateText m.date ++ " " ++ clockText c

/-! ### Literals -/

/-- Minutes as days and seconds, of which only the days can be negative. -/
def spanLiteral (minutes : Int) : String :=
  let days := minutes / minutesPerDay
  let seconds := 60 * (minutes % minutesPerDay)
  let parts := (if days = 0 then [] else ["days=" ++ Decimal.ofInt days])
    ++ if seconds = 0 then [] else ["seconds=" ++ Decimal.ofInt seconds]
  "datetime.timedelta(" ++ ", ".intercalate (if parts.isEmpty then ["0"] else parts) ++ ")"

def zoneLiteral (minutes : Int) : String :=
  if minutes = 0 then "datetime.timezone.utc"
  else "datetime.timezone(" ++ spanLiteral minutes ++ ")"

/-- The arguments of a literal.  Seconds and what is below them are left out at the end
    where they are zero. -/
def clockArguments (c : Clock) : List String :=
  let numbers := [c.hour, c.minute]
    ++ (if c.second = 0 ∧ c.microsecond = 0 then [] else [c.second])
    ++ if c.microsecond = 0 then [] else [c.microsecond]
  numbers.map (padded 1) ++ (c.zone.map fun z => "tzinfo=" ++ zoneLiteral z).toList

def literal (m : Moment) : String :=
  let date := [m.date.year, m.date.month, m.date.day].map (padded 1)
  match m.clock with
  | none => "datetime.date(" ++ ", ".intercalate date ++ ")"
  | some c => "datetime.datetime(" ++ ", ".intercalate (date ++ clockArguments c) ++ ")"

end Moment

end WorkflowPolicy
