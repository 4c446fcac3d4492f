import ChartManifests.Number.Shortest
/-!
Numbers with a fixed count of places behind the point, or with a fixed count of digits in all. A
number is kept as a ratio, so one that lies between two neighbours is recognised as what it is; it
goes to the even one of the two.
-/

namespace ChartManifests

structure Ratio where
  numerator : Nat
  denominator : Nat
deriving DecidableEq, Repr

namespace Ratio

def ofNat (number : Nat) : Ratio := ⟨number, 1⟩

def scale (ratio : Ratio) (base : Nat) (power : Int) : Ratio :=
  ⟨ratio.numerator * base ^ power.toNat, ratio.denominator * base ^ (-power).toNat⟩

def round (ratio : Ratio) : Nat := Double.roundRatio ratio.numerator ratio.denominator

def isBelow (ratio : Ratio) (bound : Nat) : Bool :=
  ratio.numerator < bound * ratio.denominator

def nearest (bits : Nat) (ratio : Ratio) : Ratio :=
  if ratio.numerator = 0 then ratio
  else
    let guess : Int := (ratio.numerator.log2 : Int) - ratio.denominator.log2 - (bits - 1)
    let exponent := if (ratio.scale 2 (-guess)).isBelow (2 ^ (bits - 1)) then guess - 1 else guess
    (ofNat (ratio.scale 2 (-exponent)).round).scale 2 exponent

structure Digits where
  whole : List Char
  fraction : List Char
deriving DecidableEq, Repr

def placed (places : Nat) (ratio : Ratio) : Digits :=
  let units := (ratio.scale 10 places).round
  let digits := Double.padLeft (places + 1) (Nat.toDigits 10 units)
  ⟨digits.take (digits.length - places), digits.drop (digits.length - places)⟩

def magnitude (ratio : Ratio) : Int :=
  if ratio.numerator = 0 then 0
  else
    let guess : Int := Double.digitCount ratio.numerator - Double.digitCount ratio.denominator
    if (ratio.scale 10 (-guess)).isBelow 1 then guess - 1 else guess

def scientific (places : Nat) (ratio : Ratio) : Digits × Int :=
  let power := ratio.magnitude
  let digits := (ratio.scale 10 (-power)).placed places
  if digits.whole.length = 1 then (digits, power)
  else (⟨['1'], List.replicate places '0'⟩, power + 1)

def Digits.write (point : Bool) (digits : Digits) : List Char :=
  digits.whole ++ (if digits.fraction.isEmpty && !point then [] else '.' :: digits.fraction)

def Digits.withoutZeros (digits : Digits) : Digits :=
  ⟨digits.whole, (digits.fraction.reverse.dropWhile (· = '0')).reverse⟩

def powerText (power : Int) : List Char :=
  'e' :: (if power < 0 then '-' else '+') :: Double.padLeft 2 (Nat.toDigits 10 power.natAbs)

def fixedText (point : Bool) (places : Nat) (ratio : Ratio) : List Char :=
  (ratio.placed places).write point

def scientificText (point : Bool) (places : Nat) (ratio : Ratio) : List Char :=
  let (digits, power) := ratio.scientific places
  digits.write point ++ powerText power

/-- A number with a count of digits, in the shorter of the two ways. Zeros at the end are dropped
unless the point is asked for. -/
def generalText (point : Bool) (count : Nat) (ratio : Ratio) : List Char :=
  let count := max count 1
  let (digits, power) := ratio.scientific (count - 1)
  let trim (digits : Digits) : Digits := if point then digits else digits.withoutZeros
  if power < -4 ∨ (count : Int) ≤ power then (trim digits).write point ++ powerText power
  else (trim (ratio.placed (count - 1 - power).toNat)).write point

end Ratio

end ChartManifests
