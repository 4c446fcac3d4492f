import ChartManifests.Number.Whole
/-!
Dates, times of day and offsets from universal time: which ones exist, and how they are written.
-/

namespace ChartManifests

inductive CalendarFault
  | year (year : Nat)
  | month
  | day
  | hour
  | minute
  | second
  | offset (microseconds : Int)
deriving DecidableEq, Repr

structure Date where
  year : Nat
  month : Nat
  day : Nat
deriving DecidableEq, Repr

structure Moment where
  date : Date
  hour : Nat
  minute : Nat
  second : Nat
  microsecond : Nat
  offset : Option Int
deriving DecidableEq, Repr

namespace Calendar

def isLeapYear (year : Nat) : Bool := year % 4 = 0 && (year % 100 ≠ 0 || year % 400 = 0)

def daysInMonth (year month : Nat) : Nat :=
  if month = 2 then (if isLeapYear year then 29 else 28)
  else if month = 4 ∨ month = 6 ∨ month = 9 ∨ month = 11 then 30
  else 31

def daysBeforeYear (year : Nat) : Nat :=
  let past := year - 1
  past * 365 + past / 4 - past / 100 + past / 400

def daysBeforeMonth (year month : Nat) : Nat :=
  totalOf ((List.range (month - 1)).map fun index => daysInMonth year (index + 1))

def padded (width number : Nat) : String :=
  let digits := Nat.toDigits 10 number
  String.ofList (List.replicate (width - digits.length) '0' ++ digits)

def second : Nat := 1000000

/-- A duration as whole days, and the seconds from `0` to `86399` and the microseconds that remain,
as they are listed in a message; a part that is zero is left out. -/
def showDuration (microseconds : Int) : String :=
  let seconds := Int.fdiv microseconds second
  let days := Int.fdiv seconds 86400
  let rest := Int.fmod seconds 86400
  let fraction := Int.fmod microseconds second
  let parts := (if days = 0 then [] else ["days=" ++ toString days])
    ++ (if rest = 0 then [] else ["seconds=" ++ toString rest])
    ++ (if fraction = 0 then [] else ["microseconds=" ++ toString fraction])
  "datetime.timedelta(" ++ (if parts.isEmpty then "0" else ", ".intercalate parts) ++ ")"

def writeOffset (microseconds : Int) : String :=
  let magnitude := microseconds.natAbs / second
  let fraction := microseconds.natAbs % second
  let rest := magnitude % 60
  (if microseconds < 0 then "-" else "+") ++ padded 2 (magnitude / 3600) ++ ":"
    ++ padded 2 (magnitude / 60 % 60)
    ++ (if rest = 0 ∧ fraction = 0 then "" else ":" ++ padded 2 rest)
    ++ (if fraction = 0 then "" else "." ++ padded 6 fraction)

def checkOffset (microseconds : Int) : Except CalendarFault Unit :=
  if microseconds ≤ -(86400 * second) ∨ 86400 * second ≤ microseconds then
    .error (.offset microseconds)
  else .ok ()

end Calendar

namespace CalendarFault

def message : CalendarFault → String
  | .year number => "year " ++ toString number ++ " is out of range"
  | .month => "month must be in 1..12"
  | .day => "day is out of range for month"
  | .hour => "hour must be in 0..23"
  | .minute => "minute must be in 0..59"
  | .second => "second must be in 0..59"
  | .offset microseconds =>
    "offset must be a timedelta strictly between -timedelta(hours=24) and timedelta(hours=24), not "
      ++ Calendar.showDuration microseconds ++ "."

end CalendarFault

namespace Date

def make (year month day : Nat) : Except CalendarFault Date :=
  if year < 1 ∨ 9999 < year then .error (.year year)
  else if month < 1 ∨ 12 < month then .error .month
  else if day < 1 ∨ Calendar.daysInMonth year month < day then .error .day
  else .ok ⟨year, month, day⟩

def text (date : Date) : String :=
  Calendar.padded 4 date.year ++ "-" ++ Calendar.padded 2 date.month ++ "-"
    ++ Calendar.padded 2 date.day

def shown (date : Date) : String :=
  "datetime.date(" ++ toString date.year ++ ", " ++ toString date.month ++ ", "
    ++ toString date.day ++ ")"

def ordinal (date : Date) : Nat :=
  Calendar.daysBeforeYear date.year + Calendar.daysBeforeMonth date.year date.month + date.day

end Date

namespace Moment

def make (year month day hour minute second microsecond : Nat) (offset : Option Int) :
    Except CalendarFault Moment := do
  let date ← Date.make year month day
  if 23 < hour then .error .hour
  else if 59 < minute then .error .minute
  else if 59 < second then .error .second
  else .ok ⟨date, hour, minute, second, microsecond, offset⟩

def textWith (separator : String) (moment : Moment) : String :=
  let fraction :=
    if moment.microsecond = 0 then "" else "." ++ Calendar.padded 6 moment.microsecond
  moment.date.text ++ separator ++ Calendar.padded 2 moment.hour ++ ":"
    ++ Calendar.padded 2 moment.minute ++ ":" ++ Calendar.padded 2 moment.second ++ fraction
    ++ (moment.offset.map Calendar.writeOffset).getD ""

def text (moment : Moment) : String := moment.textWith " "

def shown (moment : Moment) : String :=
  let date := moment.date
  let parts := [date.year, date.month, date.day, moment.hour, moment.minute]
    ++ (if moment.second = 0 ∧ moment.microsecond = 0 then [] else [moment.second])
    ++ (if moment.microsecond = 0 then [] else [moment.microsecond])
  let zone := match moment.offset with
    | none => ""
    | some offset =>
      if offset = 0 then ", tzinfo=datetime.timezone.utc"
      else ", tzinfo=datetime.timezone(" ++ Calendar.showDuration offset ++ ")"
  "datetime.datetime(" ++ ", ".intercalate (parts.map toString) ++ zone ++ ")"

def instant (moment : Moment) : Int :=
  let seconds : Int := moment.date.ordinal * 86400 + moment.hour * 3600 + moment.minute * 60
    + moment.second
  seconds * Calendar.second + moment.microsecond - moment.offset.getD 0

def same (left right : Moment) : Bool :=
  left.offset.isSome = right.offset.isSome && left.instant = right.instant

end Moment

end ChartManifests
