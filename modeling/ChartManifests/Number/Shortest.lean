import ChartManifests.Number.Double
/-!
The shortest decimal that reads back as a given double. The reals that round to the double form an
interval; for one digit, two digits and so on, the two decimals next to the double are tried, and
the first count of digits with a decimal in the interval is taken, the nearer decimal of two.
-/

namespace ChartManifests

namespace Double

structure Decimal where
  digits : List Char
  point : Int
deriving DecidableEq, Repr

/-- The reals between the midpoints to the neighbouring doubles, scaled so that `center`, `low`
and `high` are natural numbers over one denominator. The ends belong to it if `closed`. -/
structure Interval where
  center : Nat
  low : Nat
  high : Nat
  denominator : Nat
  closed : Bool
deriving Repr

def interval (mantissa : Nat) (exponent : Int) : Interval :=
  let lowGap := if mantissa = 2 ^ 52 ∧ -1074 < exponent then 1 else 2
  let scale := 2 ^ (exponent - 2).toNat
  { center := 4 * mantissa * scale
    low := (4 * mantissa - lowGap) * scale
    high := (4 * mantissa + 2) * scale
    denominator := 2 ^ (2 - exponent).toNat
    closed := mantissa % 2 = 0 }

def Interval.scaledCenter (range : Interval) (power : Int) : Nat :=
  range.center * 10 ^ (-power).toNat

def Interval.scaledUnit (range : Interval) (power : Int) : Nat :=
  10 ^ power.toNat * range.denominator

def Interval.holds (range : Interval) (units : Nat) (power : Int) : Bool :=
  let value := units * range.scaledUnit power
  let low := range.low * 10 ^ (-power).toNat
  let high := range.high * 10 ^ (-power).toNat
  if range.closed then low ≤ value && value ≤ high else low < value && value < high

def Interval.pointFrom (range : Interval) : Nat → Int → Int
  | 0, point => point
  | fuel + 1, point =>
    if range.center * 10 ^ (-point).toNat < 10 ^ point.toNat * range.denominator then point
    else range.pointFrom fuel (point + 1)

def Interval.point (range : Interval) : Int :=
  let power : Int := (range.center.log2 : Int) - range.denominator.log2
  range.pointFrom 5 (Int.fdiv (power * 1233) 4096 - 2)

def Interval.best? (range : Interval) (point : Int) (count : Nat) : Option Nat :=
  let power := point - count
  let center := range.scaledCenter power
  let unit := range.scaledUnit power
  match range.holds (center / unit) power, range.holds (center / unit + 1) power with
  | false, false => none
  | true, false => some (center / unit)
  | false, true => some (center / unit + 1)
  | true, true => some (roundRatio center unit)

def significant (units : Nat) : List Char :=
  ((Nat.toDigits 10 units).reverse.dropWhile (· = '0')).reverse

def Interval.shortestFrom (range : Interval) (point : Int) : Nat → Nat → Decimal
  | 0, count =>
    let units := range.scaledCenter (point - count) / range.scaledUnit (point - count)
    ⟨significant units, point⟩
  | fuel + 1, count =>
    match range.best? point count with
    | some units => ⟨significant units, point + ((Nat.toDigits 10 units).length - count)⟩
    | none => range.shortestFrom point fuel (count + 1)

def shortest (mantissa : Nat) (exponent : Int) : Decimal :=
  let range := interval mantissa exponent
  range.shortestFrom range.point 17 1

/-- How a number is written: positional notation for decimal points from `lowPoint` to
`highPoint`, a mark and at least `exponentWidth` digits for the other exponents. -/
structure Style where
  lowPoint : Int
  highPoint : Int
  exponentMark : Char
  exponentWidth : Nat

def padLeft (width : Nat) (digits : List Char) : List Char :=
  List.replicate (width - digits.length) '0' ++ digits

def Decimal.write (decimal : Decimal) (style : Style) : List Char :=
  let count := decimal.digits.length
  if style.lowPoint ≤ decimal.point ∧ decimal.point ≤ style.highPoint then
    if decimal.point ≤ 0 then
      '0' :: '.' :: List.replicate (-decimal.point).toNat '0' ++ decimal.digits
    else
      let whole := decimal.point.toNat
      if count ≤ whole then
        decimal.digits ++ List.replicate (whole - count) '0' ++ ['.', '0']
      else decimal.digits.take whole ++ '.' :: decimal.digits.drop whole
  else
    let power := decimal.point - 1
    let fraction := if count ≤ 1 then [] else '.' :: decimal.digits.drop 1
    decimal.digits.take 1 ++ fraction
      ++ style.exponentMark :: (if power < 0 then '-' else '+')
        :: padLeft style.exponentWidth (Nat.toDigits 10 power.natAbs)

def plainStyle : Style := ⟨-3, 16, 'e', 2⟩

def text (number : Double) : String :=
  match number.meaning with
  | .undefined => "nan"
  | .infinite negative => if negative then "-inf" else "inf"
  | .finite negative mantissa exponent =>
    let digits :=
      if mantissa = 0 then ['0', '.', '0'] else (shortest mantissa exponent).write plainStyle
    String.ofList (if negative then '-' :: digits else digits)

end Double

end ChartManifests
