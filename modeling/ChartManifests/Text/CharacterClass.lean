import ChartManifests.Text.CodePoint
/-!
Classes of characters. White space is what is taken off the ends of a text before it is shown. The
decimal digits of a script are ten consecutive characters that stand for zero to nine, so a table of
the zeros is enough. Patterns spell sets of characters between brackets, by ranges and by classes
that hold characters of ASCII only.
-/

namespace ChartManifests.Text

def blankRanges : List (Nat × Nat) := [
  (0x9, 0xD), (0x1C, 0x20), (0x85, 0x85), (0xA0, 0xA0), (0x1680, 0x1680), (0x2000, 0x200A),
  (0x2028, 0x2029), (0x202F, 0x202F), (0x205F, 0x205F), (0x3000, 0x3000)]

def isBlankNumber (number : Nat) : Bool :=
  blankRanges.any fun range => range.1 ≤ number && number ≤ range.2

def isBlank (character : Char) : Bool := isBlankNumber character.toNat

def trim (characters : List Char) : List Char :=
  (((characters.dropWhile isBlank).reverse).dropWhile isBlank).reverse

def digitZeros : List Nat := [
  0x30, 0x660, 0x6F0, 0x7C0, 0x966, 0x9E6, 0xA66, 0xAE6,
  0xB66, 0xBE6, 0xC66, 0xCE6, 0xD66, 0xDE6, 0xE50, 0xED0,
  0xF20, 0x1040, 0x1090, 0x17E0, 0x1810, 0x1946, 0x19D0, 0x1A80,
  0x1A90, 0x1B50, 0x1BB0, 0x1C40, 0x1C50, 0xA620, 0xA8D0, 0xA900,
  0xA9D0, 0xA9F0, 0xAA50, 0xABF0, 0xFF10, 0x104A0, 0x10D30, 0x11066,
  0x110F0, 0x11136, 0x111D0, 0x112F0, 0x11450, 0x114D0, 0x11650, 0x116C0,
  0x11730, 0x118E0, 0x11950, 0x11C50, 0x11D50, 0x11DA0, 0x16A60, 0x16AC0,
  0x16B50, 0x1D7CE, 0x1D7D8, 0x1D7E2, 0x1D7EC, 0x1D7F6, 0x1E140, 0x1E2F0,
  0x1E950, 0x1FBF0]

def digitValue? (character : Char) : Option Nat :=
  let code := character.toNat
  if code < 0x80 then
    if 0x30 ≤ code ∧ code ≤ 0x39 then some (code - 0x30) else none
  else
    (digitZeros.find? fun start => start ≤ code && code < start + 10).map (code - ·)

def isDigit (character : Char) : Bool := (digitValue? character).isSome

inductive Member
  | range (low high : Char)
  | classOf (name : String)
deriving DecidableEq, Repr

def isInClass (name : String) (character : Char) : Bool :=
  match name with
  | "digit" => character.isDigit
  | "alpha" => character.isAlpha
  | "alnum" => character.isAlphanum
  | "upper" => character.isUpper
  | "lower" => character.isLower
  | "space" => character.isWhitespace || character = '\x0b' || character = '\x0c'
  | "blank" => character = ' ' || character = '\t'
  | "punct" => '!' ≤ character && character ≤ '~' && !character.isAlphanum
  | "xdigit" =>
    character.isDigit || ('a' ≤ character && character ≤ 'f')
      || ('A' ≤ character && character ≤ 'F')
  | "print" => ' ' ≤ character && character ≤ '~'
  | "graph" => ' ' < character && character ≤ '~'
  | "cntrl" => character < ' ' || character = '\x7f'
  | _ => false

def classNames : List String :=
  ["alnum", "alpha", "blank", "cntrl", "digit", "graph", "lower", "print", "punct", "space",
    "upper", "xdigit"]

def Member.admits (character : Char) : Member → Bool
  | range low high => low ≤ character && character ≤ high
  | classOf name => isInClass name character

end ChartManifests.Text
