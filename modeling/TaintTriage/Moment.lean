import TaintTriage.Decimal.Text

/-!
Days of the calendar and moments of time, as documents write them.  A moment may know how far its
clock is ahead of universal time; two that both know it are the same if they are the same instant.
Numbers are checked before they become a day or a moment, the offset first and the second last.
-/

namespace TaintTriage

def isLeapYear (year : Nat) : Bool :=
  (year % 4 == 0 && year % 100 != 0) || year % 400 == 0

def daysInMonth (year month : Nat) : Nat :=
  if month = 2 then if isLeapYear year then 29 else 28
  else if month = 4 ∨ month = 6 ∨ month = 9 ∨ month = 11 then 30
  else 31

/-- A day of the calendar. -/
structure Day where
  year : Nat
  month : Nat
  day : Nat
  isReal : 1 ≤ year ∧ (1 ≤ month ∧ month ≤ 12) ∧ 1 ≤ day ∧ day ≤ daysInMonth year month
deriving DecidableEq

/-- A time of the day by the clock. -/
structure Clock where
  hour : Nat
  minute : Nat
  second : Nat
  microsecond : Nat
  isReal : hour < 24 ∧ minute < 60 ∧ second < 60
deriving DecidableEq

def minutesPerDay : Nat := 1440

/-- A moment: a day, a time by the clock and, if it is known, how many minutes the clock is ahead
of universal time. -/
structure Moment where
  day : Day
  clock : Clock
  offset : Option Int := none
  isReal : ∀ n ∈ offset, n.natAbs < minutesPerDay
deriving DecidableEq

/-- Why numbers are no day or moment. -/
inductive MomentFault where
  /-- The clock is a day or more ahead of universal time, or behind it. -/
  | offset (minutes : Int)
  | year (number : Nat)
  | month
  | day
  | hour
  | minute
  | second
deriving DecidableEq, Repr

/-- A span of time as it is shown inside messages: whole days, rounded down, and seconds. -/
def spanLiteral (minutes : Int) : String :=
  let days := Int.fdiv minutes minutesPerDay
  let seconds := Int.fmod minutes minutesPerDay * 60
  let parts :=
    (if days = 0 then [] else ["days=" ++ toString days]) ++
    (if seconds = 0 then [] else ["seconds=" ++ toString seconds])
  "datetime.timedelta(" ++ (if parts.isEmpty then "0" else ", ".intercalate parts) ++ ")"

def MomentFault.message : MomentFault → String
  | .offset minutes =>
      "offset must be a timedelta strictly between -timedelta(hours=24) and " ++
        "timedelta(hours=24), not " ++ spanLiteral minutes ++ "."
  | .year number => "year " ++ toString number ++ " is out of range"
  | .month => "month must be in 1..12"
  | .day => "day is out of range for month"
  | .hour => "hour must be in 0..23"
  | .minute => "minute must be in 0..59"
  | .second => "second must be in 0..59"

/-- A number in decimal digits with zeros in front up to a width. -/
def paddedNumber (width n : Nat) : String :=
  String.ofList (padZeros width (Nat.toDigits 10 n))

namespace Day

def ofNumbers (year month day : Nat) : Except MomentFault Day :=
  if hyear : 1 ≤ year then
    if hmonth : 1 ≤ month ∧ month ≤ 12 then
      if hday : 1 ≤ day ∧ day ≤ daysInMonth year month then
        .ok ⟨year, month, day, hyear, hmonth, hday⟩
      else .error .day
    else .error .month
  else .error (.year year)

/-- The number of days before a day, counted from the first day of the first year. -/
def ordinal (d : Day) : Nat :=
  let years := d.year - 1
  let inMonths :=
    (List.range (d.month - 1)).foldl (fun days i => days + daysInMonth d.year (i + 1)) 0
  365 * years + years / 4 - years / 100 + years / 400 + inMonths + d.day - 1

def text (d : Day) : String :=
  paddedNumber 4 d.year ++ "-" ++ paddedNumber 2 d.month ++ "-" ++ paddedNumber 2 d.day

/-- A day as it is shown inside messages. -/
def literal (d : Day) : String :=
  "datetime.date(" ++ ", ".intercalate ([d.year, d.month, d.day].map toString) ++ ")"

end Day

/-- The time of the day with given numbers. -/
def Clock.ofNumbers (hour minute second microsecond : Nat) : Except MomentFault Clock :=
  if hhour : hour < 24 then
    if hminute : minute < 60 then
      if hsecond : second < 60 then
        .ok ⟨hour, minute, second, microsecond, hhour, hminute, hsecond⟩
      else .error .second
    else .error .minute
  else .error .hour

namespace Moment

/-- The moment of a day and a time that still have to be checked. -/
def ofParts (day : Except MomentFault Day) (clock : Except MomentFault Clock)
    (offset : Option Int) : Except MomentFault Moment := do
  match offset with
  | none => return ⟨← day, ← clock, none, by simp⟩
  | some minutes =>
      if h : minutes.natAbs < minutesPerDay then
        return ⟨← day, ← clock, some minutes, by simpa using h⟩
      else throw (.offset minutes)

/-- The microseconds before a moment by its own clock. -/
def localMicroseconds (m : Moment) : Int :=
  let seconds := ((m.day.ordinal * 24 + m.clock.hour) * 60 + m.clock.minute) * 60 + m.clock.second
  seconds * 1000000 + m.clock.microsecond

/-- The microseconds before a moment in universal time, if it knows the offset of its clock. -/
def instant? (m : Moment) : Option Int :=
  m.offset.map fun minutes => m.localMicroseconds - minutes * 60 * 1000000

def isSame (m n : Moment) : Bool :=
  match m.instant?, n.instant? with
  | some a, some b => a == b
  | none, none => m.localMicroseconds == n.localMicroseconds
  | _, _ => false

def offsetText (minutes : Int) : String :=
  (if minutes < 0 then "-" else "+") ++ paddedNumber 2 (minutes.natAbs / 60) ++ ":" ++
    paddedNumber 2 (minutes.natAbs % 60)

def text (m : Moment) : String :=
  m.day.text ++ " " ++ paddedNumber 2 m.clock.hour ++ ":" ++ paddedNumber 2 m.clock.minute ++ ":" ++
    paddedNumber 2 m.clock.second ++
    (if m.clock.microsecond = 0 then "" else "." ++ paddedNumber 6 m.clock.microsecond) ++
    (m.offset.map offsetText).getD ""

/-- The offset of a clock as it is shown inside messages. -/
def offsetLiteral (minutes : Int) : String :=
  if minutes = 0 then "datetime.timezone.utc"
  else "datetime.timezone(" ++ spanLiteral minutes ++ ")"

/-- A moment as it is shown inside messages.  Zero microseconds are left out, and then zero
seconds. -/
def literal (m : Moment) : String :=
  let fine :=
    if m.clock.microsecond ≠ 0 then [m.clock.second, m.clock.microsecond]
    else if m.clock.second ≠ 0 then [m.clock.second]
    else []
  let numbers := [m.day.year, m.day.month, m.day.day, m.clock.hour, m.clock.minute] ++ fine
  "datetime.datetime(" ++ ", ".intercalate (numbers.map toString) ++
    (m.offset.map fun minutes => ", tzinfo=" ++ offsetLiteral minutes).getD "" ++ ")"

end Moment

example : (Day.ofNumbers 2000 2 29).isOk = true ∧ (Day.ofNumbers 1900 2 29).isOk = false := by
  decide
example : spanLiteral 1500 = "datetime.timedelta(days=1, seconds=3600)" := by decide +kernel
example : spanLiteral (-300) = "datetime.timedelta(days=-1, seconds=68400)" := by decide +kernel
example : (Day.ofNumbers 1 1 1).map Day.ordinal = .ok 0 := by rfl

end TaintTriage
