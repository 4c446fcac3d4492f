import ChartManifests.Calendar
/-!
Times by the clock: what day and what time of day it is so many seconds after the era began, and how
that is told by a format. Everything is in universal time.
-/

namespace ChartManifests.Clock

def dayOf (days : Nat) : Date :=
  let rec year (number left : Nat) : Nat → Nat × Nat
    | 0 => (number, left)
    | bound + 1 =>
      let length := if Calendar.isLeapYear number then 366 else 365
      if left < length then (number, left) else year (number + 1) (left - length) bound
  let (number, rest) := year 1970 days (days / 365 + 1)
  let rec month (index left : Nat) : Nat → Nat × Nat
    | 0 => (index, left)
    | bound + 1 =>
      let length := Calendar.daysInMonth number index
      if left < length then (index, left) else month (index + 1) (left - length) bound
  let (index, day) := month 1 rest 12
  ⟨number, index, day + 1⟩

def monthNames : List String :=
  ["January", "February", "March", "April", "May", "June", "July", "August", "September",
    "October", "November", "December"]

def dayNames : List String :=
  ["Sunday", "Monday", "Tuesday", "Wednesday", "Thursday", "Friday", "Saturday"]

def short (name : String) : String := String.ofList (name.toList.take 3)

def monthName (month : Nat) : String := short ((monthNames[month - 1]?).getD "")

def hoursOf (seconds : Nat) : Nat × Nat × Nat :=
  (seconds % 86400 / 3600, seconds / 60 % 60, seconds % 60)

def blankPadded (width number : Nat) : String :=
  let digits := Nat.toDigits 10 number
  String.ofList (List.replicate (width - digits.length) ' ' ++ digits)

def weekOf (dayOfYear weekday first : Nat) : Nat :=
  (dayOfYear + 7 - (weekday + 7 - first) % 7) / 7

/-- The week that a day belongs to and the year of that week: weeks begin on Mondays, and the first
one of a year has its first Thursday. -/
def properWeek (date : Date) (dayOfYear weekday : Nat) : Nat × Nat :=
  let thursday := dayOfYear + 3 + 1 - (weekday + 6) % 7
  let length (year : Nat) : Nat := if Calendar.isLeapYear year then 366 else 365
  if thursday = 0 then
    let before := length (date.year - 1)
    (date.year - 1, (before + 6) / 7)
  else if dayOfYear + 3 < (weekday + 6) % 7 then
    let before := length (date.year - 1)
    (date.year - 1, (before + dayOfYear + 3 - (weekday + 6) % 7) / 7 + 1)
  else if length date.year < thursday then (date.year + 1, 1)
  else (date.year, (thursday - 1) / 7 + 1)

def told (seconds : Nat) (letter : Char) : Option String :=
  let date := dayOf (seconds / 86400)
  let (hour, minute, second) := hoursOf seconds
  let weekday := (seconds / 86400 + 4) % 7
  let dayOfYear := Calendar.daysBeforeMonth date.year date.month + date.day - 1
  let two := Calendar.padded 2
  let half := if hour % 12 = 0 then 12 else hour % 12
  let clock := two hour ++ ":" ++ two minute
  match letter with
  | 'Y' => some (toString date.year)
  | 'C' => some (two (date.year / 100))
  | 'y' => some (two (date.year % 100))
  | 'm' => some (two date.month)
  | 'd' => some (two date.day)
  | 'e' => some (blankPadded 2 date.day)
  | 'H' => some (two hour)
  | 'I' => some (two half)
  | 'k' => some (blankPadded 2 hour)
  | 'l' => some (blankPadded 2 half)
  | 'M' => some (two minute)
  | 'S' => some (two second)
  | 's' => some (toString seconds)
  | 'j' => some (Calendar.padded 3 (dayOfYear + 1))
  | 'p' => some (if hour < 12 then "AM" else "PM")
  | 'P' => some (if hour < 12 then "am" else "pm")
  | 'a' => some (short ((dayNames[weekday]?).getD ""))
  | 'A' => some ((dayNames[weekday]?).getD "")
  | 'b' | 'h' => some (monthName date.month)
  | 'B' => some ((monthNames[date.month - 1]?).getD "")
  | 'u' => some (toString (if weekday = 0 then 7 else weekday))
  | 'w' => some (toString weekday)
  | 'U' => some (two (weekOf dayOfYear weekday 0))
  | 'W' => some (two (weekOf dayOfYear weekday 1))
  | 'V' => some (two (properWeek date dayOfYear weekday).2)
  | 'G' => some (toString (properWeek date dayOfYear weekday).1)
  | 'g' => some (two ((properWeek date dayOfYear weekday).1 % 100))
  | 'F' => some date.text
  | 'T' | 'X' => some (clock ++ ":" ++ two second)
  | 'R' => some clock
  | 'r' => some (two half ++ ":" ++ two minute ++ ":" ++ two second
      ++ (if hour < 12 then " AM" else " PM"))
  | 'D' | 'x' => some (two date.month ++ "/" ++ two date.day ++ "/" ++ two (date.year % 100))
  | 'c' => some (short ((dayNames[weekday]?).getD "") ++ " " ++ monthName date.month ++ " "
      ++ blankPadded 2 date.day ++ " " ++ clock ++ ":" ++ two second ++ " " ++ toString date.year)
  | 'Z' => some "UTC"
  | 'z' => some "+0000"
  | 'n' => some "\n"
  | 't' => some "\t"
  | '%' => some "%"
  | _ => none

def formatted (seconds : Nat) : List Char → List Char
  | '%' :: letter :: rest =>
    ((told seconds letter).map String.toList).getD ['%', letter] ++ formatted seconds rest
  | character :: rest => character :: formatted seconds rest
  | [] => []

end ChartManifests.Clock
