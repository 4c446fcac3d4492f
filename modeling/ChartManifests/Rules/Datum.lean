import ChartManifests.Number.Double
import ChartManifests.Program.Printing
/-!
The values of rules: numbers and texts. A text that comes from outside and looks like a number
counts as one where values are compared; a value that was never given is both zero and empty.
Numbers that look as if they came by chance are made from a seed: each is the sum of the third and
the thirty-first before it, without the lowest bit.
-/

namespace ChartManifests

namespace Double

def float (number : Double) : Float := Float.ofBits number.bits

def ofFloat (number : Float) : Double := ⟨number.toBits⟩

def ofNat (number : Nat) : Double := ofInt number

def noResult : Double := ofNatBits (2 ^ 63 + notANumber.bits.toNat)

def resultOf (operands : List Double) (result : Float) : Double :=
  match operands.find? isUndefined with
  | some operand => operand
  | none => if result.isNaN then noResult else ofFloat result

def truncated? (number : Double) : Option Int :=
  match number.meaning with
  | .finite negative mantissa exponent =>
    let magnitude : Nat := mantissa * 2 ^ exponent.toNat / 2 ^ (-exponent).toNat
    some (if negative then -(magnitude : Int) else magnitude)
  | _ => none

def clamped (low high : Int) (number : Double) : Int :=
  match number.truncated?, number.meaning with
  | some value, _ => max low (min high value)
  | none, .infinite negative => if negative then low else high
  | none, _ => low

def remainder (left right : Double) : Double :=
  match left.meaning, right.meaning with
  | .finite negative mantissa exponent, .finite _ other power =>
    if other = 0 then noResult
    else
      let least := min exponent power
      let scaled (mantissa : Nat) (exponent : Int) : Nat := mantissa * 2 ^ (exponent - least).toNat
      let rest := scaled mantissa exponent % scaled other power
      ofRatio negative (rest * 2 ^ least.toNat) (2 ^ (-least).toNat)
  | .finite _ _ _, .infinite _ => left
  | _, _ => resultOf [left, right] (0 / 0)

def toReal (number : Double) : Program.Real :=
  match number.meaning with
  | .finite negative mantissa exponent =>
    .finite negative ((Ratio.ofNat mantissa).scale 2 exponent)
  | .infinite negative => .infinite negative
  | .undefined => .undefined (2 ^ 63 ≤ number.bits.toNat)

end Double

namespace Rules

inductive Datum
  | unset
  | number (value : Double)
  | text (value : String)
  | input (value : String)
deriving DecidableEq, Repr

def isSpace (character : Char) : Bool :=
  [' ', '\t', '\n', '\r', '\x0b', '\x0c'].contains character

def leadingNumber (characters : List Char) : Double × List Char :=
  let (negative, body) := Program.splitSign (characters.dropWhile isSpace)
  let lower := (body.take 3).map Char.toLower
  let hexadecimal : Option (Double × List Char) :=
    match body with
    | '0' :: mark :: rest =>
      if mark.toLower = 'x' then
        match Program.mantissaOf 16 Program.isHexadecimal rest with
        | some (value, places, behind) =>
          let (power, last) := Program.powerOf 'p' behind
          let ratio := (Ratio.ofNat value).scale 2 (power - 4 * places)
          some (Double.ofRatio negative ratio.numerator ratio.denominator, last)
        | none => none
      else none
    | _ => none
  match hexadecimal with
  | some found => found
  | none =>
    if lower = ['i', 'n', 'f'] then (.infinity negative, body.drop 3)
    else if lower = ['n', 'a', 'n'] then (.notANumber, body.drop 3)
    else
      match Program.mantissaOf 10 Char.isDigit body with
      | some (value, places, rest) =>
        let (power, last) := Program.powerOf 'e' rest
        (.ofDecimal negative value (power - places), last)
      | none => (.ofZero false, characters)

def wholeNumber? (text : String) : Option Double :=
  let isBlank (character : Char) : Bool := [' ', '\t', '\n'].contains character
  let begun := text.toList.dropWhile isBlank
  let body := (begun.reverse.dropWhile isBlank).reverse
  let startsWell := body.head?.any fun first => first.isDigit || ['+', '-', '.'].contains first
  let endsWell := body.getLast?.any fun last => last.isDigit || last = '.' || last.isAlpha
  if !startsWell || !endsWell then none
  else
    let (value, rest) := leadingNumber body
    if rest.isEmpty then some value else none

def numberText (format : Double → String) (number : Double) : String :=
  match number.toInt? with
  | some value =>
    if -(2 ^ 63) ≤ value ∧ value < 2 ^ 64 then toString value
    else if value = 2 ^ 64 then toString (2 ^ 64 - 1 : Nat)
    else format number
  | none => format number

namespace Datum

def toNumber : Datum → Double
  | unset => .ofZero false
  | number value => value
  | text value | input value => (leadingNumber value.toList).1

def toText (format : Double → String) : Datum → String
  | unset => ""
  | number value => numberText format value
  | text value | input value => value

def number? : Datum → Option Double
  | unset => some (.ofZero false)
  | number value => some value
  | text _ => none
  | input value => wholeNumber? value

def holds : Datum → Bool
  | unset => false
  | number value => !value.same (.ofZero false)
  | text value => value ≠ ""
  | input value => match wholeNumber? value with
    | some spelled => !spelled.same (.ofZero false)
    | none => value ≠ ""

def ofNat (number : Nat) : Datum := .number (.ofNat number)

def ofInt (number : Int) : Datum := .number (.ofInt number)

def ofBool (value : Bool) : Datum := ofNat (if value then 1 else 0)

end Datum

structure Chance where
  last : List Nat
deriving DecidableEq, Repr

namespace Chance

def grown (number : Nat) : Nat :=
  let signed : Int := if number < 2 ^ 31 then number else (number : Int) - 2 ^ 32
  let next := 16807 * signed.tmod 127773 - 2836 * signed.tdiv 127773
  (if next < 0 then next + 2147483647 else next).toNat

def firstNumbers : Nat → Nat → List Nat
  | 0, _ => []
  | count + 1, number => number :: firstNumbers count (grown number)

def next (chance : Chance) : Nat × Chance :=
  let number := (chance.last.headD 0 + (chance.last[28]?).getD 0) % 2 ^ 32
  (number / 2, ⟨chance.last.drop 1 ++ [number]⟩)

def skip : Nat → Chance → Chance
  | 0, chance => chance
  | count + 1, chance => skip count chance.next.2

def ofSeed (seed : Nat) : Chance :=
  let numbers := firstNumbers 31 (if seed % 2 ^ 32 = 0 then 1 else seed % 2 ^ 32)
  skip 310 ⟨numbers⟩

def greatest : Nat := 2147483647

end Chance

end Rules

end ChartManifests
