import FeatureRun.Data.Value
import FeatureRun.Text.Split

/-!
Dates and times as they are written: a date alone, or a date with a time behind it, which may have a
fraction and a zone.
-/
namespace FeatureRun.Yaml
open FeatureRun.Text FeatureRun.Number FeatureRun.Data

/-- The parts of a time of day; the zone is in minutes east. -/
structure ClockStamp where
  hour : Nat
  minute : Nat
  second : Nat
  fraction : List Char
  zone : Option Int
deriving Repr

structure Stamp where
  year : Nat
  month : List Char
  day : List Char
  clock : Option ClockStamp
deriving Repr

/-- Up to `most` digits, and at least `least` of them. -/
def takeDigits? (least most : Nat) (s : List Char) : Option (List Char × List Char) :=
  let digits := (s.take most).takeWhile Char.isDigit
  if digits.length < least then none else some (digits, s.drop digits.length)

/-- The text behind a character. -/
def dropChar? (c : Char) : List Char → Option (List Char)
  | [] => none
  | d :: r => if c = d then some r else none

def isInnerBlank (c : Char) : Bool := c == ' ' || c == '\t'

/-- The minutes of a zone behind a colon, if they are written. -/
def zoneMinutes? : List Char → Option Nat
  | [] => some 0
  | s => do
    let (minutes, rest) ← takeDigits? 2 2 (← dropChar? ':' s)
    if rest.isEmpty then some (digitsValue minutes) else none

/-- The zone at the end: nothing, universal time, or an offset. -/
def readZone? (s : List Char) : Option (Option Int) :=
  match s with
  | [] => some none
  | s =>
    match s.dropWhile isInnerBlank with
    | ['Z'] => some (some 0)
    | sign :: r =>
      if sign = '+' || sign = '-' then do
        let (hours, rest) ← takeDigits? 1 2 r
        let minutes ← zoneMinutes? rest
        some (some (Binary64.signed (sign = '-') (60 * digitsValue hours + minutes)))
      else none
    | [] => none

/-- The time of day behind a date. -/
def readClock? (s : List Char) : Option ClockStamp := do
  let body ←
    match s with
    | c :: r =>
      if c = 'T' || c = 't' then some r
      else if isInnerBlank c then some (r.dropWhile isInnerBlank)
      else none
    | [] => none
  let (hour, rest) ← takeDigits? 1 2 body
  let (minute, rest) ← takeDigits? 2 2 (← dropChar? ':' rest)
  let (second, rest) ← takeDigits? 2 2 (← dropChar? ':' rest)
  let (fraction, rest) :=
    match rest with
    | '.' :: r => r.span Char.isDigit
    | r => ([], r)
  let zone ← readZone? rest
  some ⟨digitsValue hour, digitsValue minute, digitsValue second, fraction, zone⟩

/-- Reads a date, perhaps with a time. -/
def Stamp.read? (s : List Char) : Option Stamp := do
  let (year, rest) ← takeDigits? 4 4 s
  let (month, rest) ← takeDigits? 1 2 (← dropChar? '-' rest)
  let (day, rest) ← takeDigits? 1 2 (← dropChar? '-' rest)
  if rest.isEmpty then some ⟨digitsValue year, month, day, none⟩
  else some ⟨digitsValue year, month, day, some (← readClock? rest)⟩

/-- The form of a time. A date alone has two digits for the month and for the day. -/
def isTimeForm (s : List Char) : Bool :=
  match Stamp.read? s with
  | some t => t.clock.isSome || (t.month.length == 2 && t.day.length == 2)
  | none => false

/-- The first six digits of a fraction of a second. -/
def microseconds (fraction : List Char) : Nat :=
  digitsValue ((fraction ++ List.replicate 6 '0').take 6)

/-- The date or moment of a stamp, if the calendar has it. The zone is looked at first. -/
def Stamp.value (t : Stamp) : Except CalendarError Value :=
  match t.clock with
  | none => (Date.of t.year (digitsValue t.month) (digitsValue t.day)).map .date
  | some k => do
    let zone ←
      match k.zone with
      | some minutes => (checkOffset minutes).map some
      | none => .ok none
    let date ← Date.of t.year (digitsValue t.month) (digitsValue t.day)
    .ok (.moment (← Moment.of date k.hour k.minute k.second (microseconds k.fraction) zone))

end FeatureRun.Yaml
