import FeatureRun.CoreInstances
import FeatureRun.Text.Numeral

/-!
Calendar dates and moments of a day, with the offset from universal time where one is known.
-/
namespace FeatureRun.Data
open FeatureRun.Text
open scoped FeatureRun.CoreInstances

structure Date where
  year : Nat
  month : Nat
  day : Nat
deriving DecidableEq, Repr

/-- A moment of a date, to the microsecond. The offset is in minutes east. -/
structure Moment where
  date : Date
  hour : Nat
  minute : Nat
  second : Nat
  microsecond : Nat
  offset : Option Int
deriving DecidableEq, Repr

inductive CalendarError where
  | year (found : Nat)
  | month
  | day
  | hour
  | minute
  | second
  | offset (minutes : Int)
deriving DecidableEq, Repr

def isLeapYear (year : Nat) : Bool := year % 4 == 0 && (year % 100 != 0 || year % 400 == 0)

def daysInMonth (year month : Nat) : Nat :=
  if month = 2 then (if isLeapYear year then 29 else 28)
  else if month = 4 || month = 6 || month = 9 || month = 11 then 30
  else 31

/-- The date, if there is one in the years 1 to 9999. -/
def Date.of (year month day : Nat) : Except CalendarError Date :=
  if year < 1 || 9999 < year then .error (.year year)
  else if month < 1 || 12 < month then .error .month
  else if day < 1 || daysInMonth year month < day then .error .day
  else .ok ⟨year, month, day⟩

/-- An offset is shorter than a day. -/
def checkOffset (minutes : Int) : Except CalendarError Int :=
  if minutes.natAbs < 1440 then .ok minutes else .error (.offset minutes)

/-- The moment, if the clock shows such a time. -/
def Moment.of (date : Date) (hour minute second microsecond : Nat) (offset : Option Int) :
    Except CalendarError Moment :=
  if 23 < hour then .error .hour
  else if 59 < minute then .error .minute
  else if 59 < second then .error .second
  else .ok ⟨date, hour, minute, second, microsecond, offset⟩

/-- Days from the first day of year 1. -/
def Date.ordinal (d : Date) : Nat :=
  let past := d.year - 1
  past * 365 + past / 4 - past / 100 + past / 400 +
    ((List.range (d.month - 1)).map fun i => daysInMonth d.year (i + 1)).sum + (d.day - 1)

/-- Microseconds from the first moment of year 1 at the moment's own offset. -/
def Moment.clock (m : Moment) : Int :=
  ((((m.date.ordinal * 24 + m.hour) * 60 + m.minute) * 60 + m.second) * 1000000 +
    m.microsecond : Nat)

/-- Two moments with offsets are the same if they are at universal time; a moment with an offset
is never the same as one without. -/
def Moment.same (a b : Moment) : Bool :=
  match a.offset, b.offset with
  | none, none => a.clock == b.clock
  | some x, some y => a.clock - x * 60000000 == b.clock - y * 60000000
  | _, _ => false

def Date.text (d : Date) : String :=
  padded 4 d.year ++ "-" ++ padded 2 d.month ++ "-" ++ padded 2 d.day

/-- The offset as sign, hours and minutes. -/
def offsetText (minutes : Int) : String :=
  (if minutes < 0 then "-" else "+") ++ padded 2 (minutes.natAbs / 60) ++ ":" ++
    padded 2 (minutes.natAbs % 60)

/-- Date and time with `separator` between them; a fraction is written if it is not zero. -/
def Moment.text (separator : String) (m : Moment) : String :=
  m.date.text ++ separator ++ padded 2 m.hour ++ ":" ++ padded 2 m.minute ++ ":" ++
    padded 2 m.second ++
    (if m.microsecond = 0 then "" else "." ++ padded 6 m.microsecond) ++
    (match m.offset with
      | some o => offsetText o
      | none => "")

/-- A length of time as whole days, rounded down, and the seconds left. -/
def durationText (minutes : Int) : String :=
  let days := minutes.fdiv 1440
  let seconds := minutes.fmod 1440 * 60
  let parts := (if days = 0 then [] else ["days=" ++ toString days]) ++
    (if seconds = 0 then [] else ["seconds=" ++ toString seconds])
  "datetime.timedelta(" ++ (if parts.isEmpty then "0" else ", ".intercalate parts) ++ ")"

/-- The constructor form of a date. -/
def Date.shown (d : Date) : String :=
  "datetime.date(" ++ toString d.year ++ ", " ++ toString d.month ++ ", " ++ toString d.day ++ ")"

/-- The constructor form of an offset. -/
def offsetShown (minutes : Int) : String :=
  if minutes = 0 then "datetime.timezone.utc"
  else "datetime.timezone(" ++ durationText minutes ++ ")"

/-- The constructor form of a moment; seconds and microseconds are left out if they are zero. -/
def Moment.shown (m : Moment) : String :=
  let small :=
    if m.microsecond != 0 then [m.second, m.microsecond]
    else if m.second != 0 then [m.second]
    else []
  "datetime.datetime(" ++
    ", ".intercalate
      (([m.date.year, m.date.month, m.date.day, m.hour, m.minute] ++ small).map toString) ++
    (match m.offset with
      | some o => ", tzinfo=" ++ offsetShown o
      | none => "") ++ ")"

def CalendarError.message : CalendarError → String
  | .year found => "year " ++ toString found ++ " is out of range"
  | .month => "month must be in 1..12"
  | .day => "day is out of range for month"
  | .hour => "hour must be in 0..23"
  | .minute => "minute must be in 0..59"
  | .second => "second must be in 0..59"
  | .offset minutes =>
    "offset must be a timedelta strictly between -timedelta(hours=24) and timedelta(hours=24), " ++
      "not " ++ durationText minutes ++ "."

end FeatureRun.Data
