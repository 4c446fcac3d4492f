import ChartManifests.Number.Whole
/-!
Double-precision numbers, kept as their bits so that two of them can be compared and taken apart.
A ratio of natural numbers is rounded to the nearest double, a tie to the even neighbour.
-/

namespace ChartManifests

structure Double where
  bits : UInt64
deriving DecidableEq, Repr, Inhabited

namespace Double

inductive Meaning
  | finite (negative : Bool) (mantissa : Nat) (exponent : Int)
  | infinite (negative : Bool)
  | undefined
deriving DecidableEq, Repr

def meaning (number : Double) : Meaning :=
  let bits := number.bits.toNat
  let negative : Bool := 2 ^ 63 ≤ bits
  let field : Nat := bits / 2 ^ 52 % 2 ^ 11
  let fraction : Nat := bits % 2 ^ 52
  if field = 2047 then
    if fraction = 0 then .infinite negative else .undefined
  else if field = 0 then .finite negative fraction (-1074)
  else .finite negative (2 ^ 52 + fraction) ((field : Int) - 1075)

def signBit (negative : Bool) : Nat := if negative then 2 ^ 63 else 0

def ofNatBits (bits : Nat) : Double := ⟨UInt64.ofNat bits⟩

def infinity (negative : Bool) : Double := ofNatBits (signBit negative + 2047 * 2 ^ 52)

def notANumber : Double := ofNatBits (2047 * 2 ^ 52 + 2 ^ 51)

def ofZero (negative : Bool) : Double := ofNatBits (signBit negative)

def pack (negative : Bool) (mantissa : Nat) (exponent : Int) : Double :=
  if mantissa < 2 ^ 52 then ofNatBits (signBit negative + mantissa)
  else if 971 < exponent then infinity negative
  else ofNatBits (signBit negative + (exponent + 1075).toNat * 2 ^ 52 + (mantissa - 2 ^ 52))

def roundRatio (numerator denominator : Nat) : Nat :=
  let quotient := numerator / denominator
  let double := 2 * (numerator % denominator)
  if double < denominator then quotient
  else if denominator < double then quotient + 1
  else quotient + quotient % 2

def scaleDown (numerator denominator : Nat) (power : Int) : Nat × Nat :=
  (numerator * 2 ^ (-power).toNat, denominator * 2 ^ power.toNat)

def ofRatio (negative : Bool) (numerator denominator : Nat) : Double :=
  if numerator = 0 then ofZero negative
  else
    let guess : Int := (numerator.log2 : Int) - denominator.log2 - 52
    let scaled := scaleDown numerator denominator guess
    let exact := if scaled.1 < 2 ^ 52 * scaled.2 then guess - 1 else guess
    let exponent := max exact (-1074)
    let kept := scaleDown numerator denominator exponent
    let mantissa := roundRatio kept.1 kept.2
    if mantissa = 2 ^ 53 then pack negative (2 ^ 52) (exponent + 1)
    else pack negative mantissa exponent

def digitCount (number : Nat) : Nat :=
  if number = 0 then 0 else (Nat.toDigits 10 number).length

def ofDecimal (negative : Bool) (digits : Nat) (exponent : Int) : Double :=
  let magnitude : Int := digitCount digits + exponent
  if digits = 0 ∨ magnitude < -330 then ofZero negative
  else if 310 < magnitude then infinity negative
  else ofRatio negative (digits * 10 ^ exponent.toNat) (10 ^ (-exponent).toNat)

def ofInt (integer : Int) : Double := ofRatio (integer < 0) integer.natAbs 1

def add (left right : Double) : Double :=
  ⟨(Float.ofBits left.bits + Float.ofBits right.bits).toBits⟩

def mul (left right : Double) : Double :=
  ⟨(Float.ofBits left.bits * Float.ofBits right.bits).toBits⟩

def toInt? (number : Double) : Option Int :=
  match number.meaning with
  | .finite negative mantissa exponent =>
    let magnitude? :=
      if 0 ≤ exponent then some (mantissa * 2 ^ exponent.toNat)
      else
        let divisor := 2 ^ (-exponent).toNat
        if mantissa % divisor = 0 then some (mantissa / divisor) else none
    magnitude?.map fun magnitude => if negative then -(magnitude : Int) else magnitude
  | _ => none

def isUndefined (number : Double) : Bool := number.meaning = .undefined

def same (left right : Double) : Bool :=
  left = right ||
    match left.meaning, right.meaning with
    | .finite _ 0 _, .finite _ 0 _ => true
    | _, _ => false

end Double

end ChartManifests
