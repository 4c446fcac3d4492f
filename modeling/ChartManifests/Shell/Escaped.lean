import ChartManifests.Shell.Arithmetic
/-!
Text with escapes between `$'` and a quote: what each escape stands for. A character that is none of
ASCII has no byte of its own and stays an escape. Text behind a null is lost.
-/

namespace ChartManifests.Shell.Escaped

open Arithmetic (isOctal isHexadecimal valueOf)

def hexText (width value : Nat) : List Char :=
  let digits := (Nat.toDigits 16 value).map Char.toUpper
  List.replicate (width - digits.length) '0' ++ digits

def universal (value : Nat) : List Char :=
  if value < 128 then [Char.ofNat value]
  else if value < 2 ^ 16 then '\\' :: 'u' :: hexText 4 value
  else '\\' :: 'U' :: hexText 8 value

/-- What digits of a base behind an escape come to, no more than a number of them, and what follows
them; without any the escape is text. -/
def numbered (limit : Nat) (mark : Char) (shown : Nat → List Char) (rest : List Char) :
    List Char × List Char :=
  let digits := (rest.take limit).takeWhile isHexadecimal
  if digits.isEmpty then (['\\', mark], rest)
  else (shown (valueOf 16 digits), rest.drop digits.length)

def escape : List Char → List Char × List Char
  | [] => (['\\'], [])
  | character :: rest =>
    let byte (value : Nat) : List Char := [Char.ofNat (value % 256)]
    match character with
    | 'a' => (byte 7, rest)
    | 'b' => (byte 8, rest)
    | 'e' | 'E' => (byte 27, rest)
    | 'f' => (byte 12, rest)
    | 'n' => (byte 10, rest)
    | 'r' => (byte 13, rest)
    | 't' => (byte 9, rest)
    | 'v' => (byte 11, rest)
    | '\\' | '\'' | '"' | '?' => ([character], rest)
    | 'x' => numbered 2 'x' byte rest
    | 'u' => numbered 4 'u' universal rest
    | 'U' => numbered 8 'U' universal rest
    | 'c' =>
      match rest with
      | '?' :: more => (byte 127, more)
      | controlled :: more => (byte (controlled.toUpper.toNat % 32), more)
      | [] => (['\\', 'c'], [])
    | _ =>
      if isOctal character then
        let digits := ((character :: rest).take 3).takeWhile isOctal
        (byte (valueOf 8 digits), (character :: rest).drop digits.length)
      else (['\\', character], rest)

def decoded : Nat → List Char → List Char
  | 0, _ => []
  | _ + 1, [] => []
  | bound + 1, '\\' :: rest =>
    let (shown, after) := escape rest
    shown ++ decoded bound after
  | bound + 1, character :: rest => character :: decoded bound rest

def decode (characters : List Char) : List Char :=
  (decoded (characters.length + 1) characters).takeWhile (· ≠ '\x00')

end ChartManifests.Shell.Escaped
