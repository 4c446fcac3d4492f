import ChartManifests.Text.Utf8
/-!
UTF-16 code units, in either byte order. A high surrogate must be followed by a low one, and a low
one must follow a high one.
-/

namespace ChartManifests.Text.Utf16

inductive ByteOrder
  | littleEndian
  | bigEndian
deriving DecidableEq, Repr

def units? (order : ByteOrder) : Bytes → Option (List Nat)
  | [] => some []
  | [_] => none
  | one :: two :: rest =>
    let unit := match order with
      | .littleEndian => one.toNat + 256 * two.toNat
      | .bigEndian => 256 * one.toNat + two.toNat
    (units? order rest).map (unit :: ·)

def characters? (high : Option Nat) : List Nat → Option (List Char)
  | [] => if high.isSome then none else some []
  | unit :: rest =>
    match high with
    | some lead =>
      if 0xDC00 ≤ unit ∧ unit ≤ 0xDFFF then
        (characters? none rest).map
          (Char.ofNat (0x10000 + (lead - 0xD800) * 0x400 + (unit - 0xDC00)) :: ·)
      else none
    | none =>
      if 0xD800 ≤ unit ∧ unit ≤ 0xDBFF then characters? (some unit) rest
      else if 0xDC00 ≤ unit ∧ unit ≤ 0xDFFF then none
      else (characters? none rest).map (Char.ofNat unit :: ·)

def decode? (order : ByteOrder) (bytes : Bytes) : Option (List Char) :=
  (units? order bytes).bind (characters? none)

end ChartManifests.Text.Utf16
