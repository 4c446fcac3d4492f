import ChartManifests.Text.Utf8
/-!
Base64. In documents characters outside the alphabet are skipped, and the data ends at the first
complete padding.
-/

namespace ChartManifests.Text.Base64

def sextet? (character : Char) : Option Nat :=
  let code := character.toNat
  if 0x41 ≤ code ∧ code ≤ 0x5A then some (code - 0x41)
  else if 0x61 ≤ code ∧ code ≤ 0x7A then some (code - 0x61 + 26)
  else if 0x30 ≤ code ∧ code ≤ 0x39 then some (code - 0x30 + 52)
  else if character = '+' then some 62
  else if character = '/' then some 63
  else none

/-- Decodes from a position within a group of four: `position` characters of the group were read,
the last of them left `carried` bits over, and `pads` padding characters followed it. -/
def decodeFrom (position carried pads : Nat) : List Char → Option Bytes
  | [] => if position = 0 then some [] else none
  | '=' :: rest =>
    if 2 ≤ position then
      if 4 ≤ position + (pads + 1) then some [] else decodeFrom position carried (pads + 1) rest
    else decodeFrom position carried pads rest
  | character :: rest =>
    match sextet? character with
    | none => decodeFrom position carried pads rest
    | some bits =>
      match position with
      | 0 => decodeFrom 1 bits 0 rest
      | 1 => (decodeFrom 2 (bits % 16) 0 rest).map (UInt8.ofNat (carried * 4 + bits / 16) :: ·)
      | 2 => (decodeFrom 3 (bits % 4) 0 rest).map (UInt8.ofNat (carried * 16 + bits / 4) :: ·)
      | _ => (decodeFrom 0 0 0 rest).map (UInt8.ofNat (carried * 64 + bits) :: ·)

def decode? (characters : List Char) : Option Bytes := decodeFrom 0 0 0 characters

def alphabet : List Char :=
  "ABCDEFGHIJKLMNOPQRSTUVWXYZabcdefghijklmnopqrstuvwxyz0123456789+/".toList

def character (bits : Nat) : Char := alphabet.getD (bits % 64) '='

def encode : Bytes → List Char
  | [] => []
  | [first] =>
    let bits := first.toNat * 16
    [character (bits / 64), character bits, '=', '=']
  | [first, second] =>
    let bits := (first.toNat * 256 + second.toNat) * 4
    [character (bits / 4096), character (bits / 64), character bits, '=']
  | first :: second :: third :: rest =>
    let bits := (first.toNat * 256 + second.toNat) * 256 + third.toNat
    character (bits / 262144) :: character (bits / 4096) :: character (bits / 64)
      :: character bits :: encode rest

end ChartManifests.Text.Base64
