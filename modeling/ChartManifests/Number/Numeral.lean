import ChartManifests.Number.Double
import ChartManifests.Text.CharacterClass
/-!
Numbers read from text. White space around a numeral is ignored, and the digits of every script
are accepted.
-/

namespace ChartManifests.Numeral

def digitLimit : Nat := 4300

def limitNotice (count : Option Nat) : String :=
  "Exceeds the limit (" ++ toString digitLimit ++ " digits) for integer string conversion"
    ++ (match count with
      | some count => ": value has " ++ toString count ++ " digits"
      | none => "")
    ++ "; use sys.set_int_max_str_digits() to increase the limit"

/-- A code point as it counts in a numeral: a digit of any script as that digit, and white space
as a space. Nothing else outside of ASCII counts. -/
def plain (point : CodePoint) : Char :=
  if point.number < 0x7F then Char.ofNat point.number
  else if Text.isBlankNumber point.number then ' '
  else
    match point.char?.bind Text.digitValue? with
    | some value => Nat.digitChar value
    | none => '?'

def isSpace (character : Char) : Bool :=
  character = ' ' || ('\t' ≤ character && character ≤ '\r')

def trim (characters : List Char) : List Char :=
  ((characters.dropWhile isSpace).reverse.dropWhile isSpace).reverse

def characters (text : Text) : List Char := trim (text.map plain)

def digit? (character : Char) : Option Nat :=
  if '0' ≤ character ∧ character ≤ '9' then some (character.toNat - '0'.toNat)
  else if 'a' ≤ character ∧ character ≤ 'z' then some (character.toNat - 'a'.toNat + 10)
  else if 'A' ≤ character ∧ character ≤ 'Z' then some (character.toNat - 'A'.toNat + 10)
  else none

def natural? (base start : Nat) : List Char → Option Nat
  | [] => some start
  | character :: rest =>
    match digit? character with
    | some value => if value < base then natural? base (start * base + value) rest else none
    | none => none

def sign : List Char → Bool × List Char
  | '-' :: rest => (true, rest)
  | '+' :: rest => (false, rest)
  | characters => (false, characters)

def dropMark (base : Nat) : List Char → List Char
  | '0' :: mark :: rest =>
    if (base = 16 ∧ (mark = 'x' ∨ mark = 'X')) ∨ (base = 8 ∧ (mark = 'o' ∨ mark = 'O'))
        ∨ (base = 2 ∧ (mark = 'b' ∨ mark = 'B')) then rest
    else '0' :: mark :: rest
  | characters => characters

def leadingDigits (text : Text) : Nat :=
  ((sign (characters text)).2.takeWhile Char.isDigit).length

def integer? (base : Nat) (text : Text) : Option Int :=
  let signed := sign (characters text)
  let digits := dropMark base signed.2
  if digits.isEmpty then none
  else (natural? base 0 digits).map fun magnitude =>
    if signed.1 then -(magnitude : Int) else magnitude

def spanDigits (characters : List Char) : List Char × List Char :=
  (characters.takeWhile Char.isDigit, characters.dropWhile Char.isDigit)

def exponent? : List Char → Option Int
  | [] => some 0
  | mark :: rest =>
    if mark = 'e' ∨ mark = 'E' then
      let signed := sign rest
      if signed.2.isEmpty ∨ ¬ signed.2.all Char.isDigit then none
      else (natural? 10 0 signed.2).map fun magnitude =>
        if signed.1 then -(magnitude : Int) else magnitude
    else none

def unsigned? (negative : Bool) (characters : List Char) : Option Double :=
  let name := characters.map Char.toLower
  if name = ['i', 'n', 'f'] ∨ name = ['i', 'n', 'f', 'i', 'n', 'i', 't', 'y'] then
    some (.infinity negative)
  else if name = ['n', 'a', 'n'] then some .notANumber
  else
    let (whole, afterWhole) := spanDigits characters
    let (fraction, rest) := match afterWhole with
      | '.' :: afterPoint => spanDigits afterPoint
      | _ => ([], afterWhole)
    if whole.isEmpty ∧ fraction.isEmpty then none
    else
      match natural? 10 0 (whole ++ fraction), exponent? rest with
      | some digits, some exponent =>
        some (.ofDecimal negative digits (exponent - fraction.length))
      | _, _ => none

def double? (text : Text) : Option Double :=
  let signed := sign (characters text)
  unsigned? signed.1 signed.2

end ChartManifests.Numeral
