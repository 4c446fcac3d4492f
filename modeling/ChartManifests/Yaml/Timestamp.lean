import ChartManifests.Yaml.Fault
/-!
Dates and times as they are written in a document: a date, or a date and a time of day, which may
have a fraction of a second and an offset from universal time.
-/

namespace ChartManifests.Yaml

inductive Zone
  | universal
  | shifted (behind : Bool) (hours minutes : Nat)
deriving DecidableEq, Repr

structure ClockTime where
  hour : Nat
  minute : Nat
  second : Nat
  fraction : List Char
  zone : Option Zone
deriving DecidableEq, Repr

structure Timestamp where
  year : Nat
  month : Nat
  day : Nat
  padded : Bool
  time : Option ClockTime
deriving DecidableEq, Repr

def isAsciiDigit (character : Char) : Bool := '0' ≤ character && character ≤ '9'

def digitsValue (digits : List Char) : Nat :=
  digits.foldl (fun total digit => total * 10 + (digit.toNat - '0'.toNat)) 0

namespace Timestamp

def digits? (least most : Nat) (characters : List Char) : Option (List Char × List Char) :=
  let digits := characters.takeWhile isAsciiDigit
  if least ≤ digits.length ∧ digits.length ≤ most then
    some (digits, characters.drop digits.length)
  else none

def marked? (mark : Char) (least most : Nat) : List Char → Option (List Char × List Char)
  | [] => none
  | character :: rest => if character = mark then digits? least most rest else none

def isBlankCharacter (character : Char) : Bool := character = ' ' || character = '\t'

def zoneMinutes? : List Char → Option Nat
  | [] => some 0
  | rest =>
    match marked? ':' 2 2 rest with
    | some (minutes, []) => some (digitsValue minutes)
    | _ => none

def zone? (characters : List Char) : Option (Option Zone) :=
  match characters with
  | [] => some none
  | _ =>
    match characters.dropWhile isBlankCharacter with
    | ['Z'] => some (some .universal)
    | sign :: rest =>
      if sign = '+' ∨ sign = '-' then do
        let (hours, afterHours) ← digits? 1 2 rest
        let minutes ← zoneMinutes? afterHours
        some (some (.shifted (sign = '-') (digitsValue hours) minutes))
      else none
    | [] => none

def clockTime? (characters : List Char) : Option ClockTime := do
  let (hour, afterHour) ← digits? 1 2 characters
  let (minute, afterMinute) ← marked? ':' 2 2 afterHour
  let (second, afterSecond) ← marked? ':' 2 2 afterMinute
  let (fraction, afterFraction) := match afterSecond with
    | '.' :: rest => (rest.takeWhile isAsciiDigit, rest.dropWhile isAsciiDigit)
    | _ => ([], afterSecond)
  let zone ← zone? afterFraction
  some ⟨digitsValue hour, digitsValue minute, digitsValue second, fraction, zone⟩

def afterSeparator? : List Char → Option (List Char)
  | 'T' :: rest | 't' :: rest => some rest
  | ' ' :: rest | '\t' :: rest => some (rest.dropWhile isBlankCharacter)
  | _ => none

def parse? (characters : List Char) : Option Timestamp := do
  let (year, afterYear) ← digits? 4 4 characters
  let (month, afterMonth) ← marked? '-' 1 2 afterYear
  let (day, afterDay) ← marked? '-' 1 2 afterMonth
  let date : Timestamp :=
    ⟨digitsValue year, digitsValue month, digitsValue day, month.length = 2 && day.length = 2,
      none⟩
  match afterDay with
  | [] => some date
  | _ => do
    let time ← clockTime? (← afterSeparator? afterDay)
    some { date with time := some time }

def microseconds (fraction : List Char) : Nat :=
  digitsValue ((fraction ++ List.replicate 6 '0').take 6)

def offset : Zone → Except CalendarFault Int
  | .universal => .ok 0
  | .shifted behind hours minutes => do
    let magnitude : Int := (hours * 3600 + minutes * 60) * Calendar.second
    let offset := if behind then -magnitude else magnitude
    Calendar.checkOffset offset
    .ok offset

def denoted (timestamp : Timestamp) : Except CalendarFault (Date ⊕ Moment) := do
  match timestamp.time with
  | none => .ok (.inl (← Date.make timestamp.year timestamp.month timestamp.day))
  | some time =>
    let offset ← match time.zone with
      | none => .ok none
      | some zone => (offset zone).map some
    .ok (.inr (← Moment.make timestamp.year timestamp.month timestamp.day time.hour time.minute
      time.second (microseconds time.fraction) offset))

end Timestamp

end ChartManifests.Yaml
