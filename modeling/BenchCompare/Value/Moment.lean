import BenchCompare.Decimal.Fixed

/-!
# Dates and times

A configuration may hold a date, or a date with a time of day and perhaps an offset from universal time.
The only use made of them is to show them: as text, and as the call that makes them.
-/

namespace BenchCompare

/-- A day of the calendar. -/
structure Date where
  /-- The year. -/
  year : Nat
  /-- The month, from one. -/
  month : Nat
  /-- The day of the month, from one. -/
  day : Nat
  deriving DecidableEq, Repr

/-- A time of day. -/
structure Clock where
  /-- The hour. -/
  hour : Nat
  /-- The minute. -/
  minute : Nat
  /-- The second. -/
  second : Nat
  /-- The millionths of a second. -/
  micro : Nat
  deriving DecidableEq, Repr

/-- A date, or a time on a date. -/
inductive Moment
  /-- A whole day. -/
  | day (date : Date)
  /-- A time of a day, with the seconds by which its clock is ahead of universal time, if it says so. -/
  | time (date : Date) (clock : Clock) (ahead : Option Int)
  deriving DecidableEq, Repr

/-! ## Validity -/

/-- Whether a year has a 29th of February. -/
def isLeapYear (year : Nat) : Bool := year % 4 = 0 && (year % 100 ≠ 0 || year % 400 = 0)

/-- The number of days of a month. -/
def daysIn (year month : Nat) : Nat :=
  match month with
  | 2 => if isLeapYear year then 29 else 28
  | 4 | 6 | 9 | 11 => 30
  | _ => 31

/-- Why there is no such moment. -/
inductive MomentFault
  /-- There is no such year. -/
  | year (year : Nat)
  /-- There is no such month. -/
  | month
  /-- The month has no such day. -/
  | day
  /-- There is no such hour. -/
  | hour
  /-- There is no such minute. -/
  | minute
  /-- There is no such second. -/
  | second
  /-- The clock is a day or more off universal time. -/
  | offset (ahead : Int)
  deriving DecidableEq, Repr

/-- An amount of time, as the call that makes it. -/
def durationText (seconds : Int) : String :=
  let days := Int.fdiv seconds 86400
  let rest := Int.fmod seconds 86400
  let parts := (if days = 0 then [] else [s!"days={days}"]) ++
    (if rest = 0 then [] else [s!"seconds={rest}"])
  "datetime.timedelta(" ++ (if parts.isEmpty then "0" else ", ".intercalate parts) ++ ")"

/-- The wording of a fault. -/
def MomentFault.message : MomentFault → String
  | year y => s!"year {y} is out of range"
  | month => "month must be in 1..12"
  | day => "day is out of range for month"
  | hour => "hour must be in 0..23"
  | minute => "minute must be in 0..59"
  | second => "second must be in 0..59"
  | offset ahead =>
    "offset must be a timedelta strictly between -timedelta(hours=24) and timedelta(hours=24), not "
      ++ durationText ahead ++ "."

/-- The date, if the calendar has it. -/
def Date.checked (d : Date) : Except MomentFault Date :=
  if d.year = 0 then .error (.year d.year)
  else if d.month = 0 ∨ 12 < d.month then .error .month
  else if d.day = 0 ∨ daysIn d.year d.month < d.day then .error .day
  else .ok d

/-- The time, if a day has it. -/
def Clock.checked (c : Clock) : Except MomentFault Clock :=
  if 23 < c.hour then .error .hour
  else if 59 < c.minute then .error .minute
  else if 59 < c.second then .error .second
  else .ok c

/-- The moment, if there is such a date, such a time and such an offset.  The offset is looked at
first. -/
def Moment.checked : Moment → Except MomentFault Moment
  | day d => do return day (← d.checked)
  | time d c ahead => do
    match ahead with
    | some s => if 86400 ≤ s.natAbs then throw (.offset s)
    | none => pure ()
    return time (← d.checked) (← c.checked) ahead

/-! ## Text -/

/-- A number with leading zeros up to a width. -/
def padded (width n : Nat) : String := String.ofList ((Decimal.digits n).leftpad width '0')

/-- A date, such as `2024-05-01`. -/
def Date.text (d : Date) : String := s!"{padded 4 d.year}-{padded 2 d.month}-{padded 2 d.day}"

/-- A time of day, such as `10:15:30`, with six places if there is a fraction. -/
def Clock.text (c : Clock) : String :=
  s!"{padded 2 c.hour}:{padded 2 c.minute}:{padded 2 c.second}" ++
    (if c.micro = 0 then "" else "." ++ padded 6 c.micro)

/-- An offset from universal time, such as `+02:00`. -/
def offsetText (ahead : Int) : String :=
  let minutes := ahead.natAbs / 60
  (if ahead < 0 then "-" else "+") ++ s!"{padded 2 (minutes / 60)}:{padded 2 (minutes % 60)}"

/-- The moment as text. -/
def Moment.text : Moment → String
  | day d => d.text
  | time d c ahead => d.text ++ " " ++ c.text ++ (ahead.elim "" offsetText)

/-- A clock's offset, as the call that makes it. -/
def offsetCall (ahead : Int) : String :=
  if ahead = 0 then "datetime.timezone.utc" else s!"datetime.timezone({durationText ahead})"

/-- The moment as the call that makes it; zero seconds at the end are left out. -/
def Moment.call : Moment → String
  | day d => s!"datetime.date({d.year}, {d.month}, {d.day})"
  | time d c ahead =>
    let last := if c.micro ≠ 0 then [c.second, c.micro] else if c.second ≠ 0 then [c.second] else []
    let numbers := [d.year, d.month, d.day, c.hour, c.minute] ++ last
    "datetime.datetime(" ++
      ", ".intercalate (numbers.map toString ++ (ahead.map fun s => "tzinfo=" ++ offsetCall s).toList)
      ++ ")"

end BenchCompare
