import ChartManifests.Text.Utf8
import ChartManifests.Text.Quoted
/-!
Texts as the bytes that the operating system takes for names, arguments and variables. The
surrogates of one range stand for bytes that are no part of a character; the other surrogates have
no bytes.
-/

namespace ChartManifests.Text

/-- Where a text cannot be turned into bytes: at surrogates from one position up to another. -/
structure EncodingFault where
  point : CodePoint
  first : Nat
  last : Nat
deriving DecidableEq, Repr

def EncodingFault.message (fault : EncodingFault) : String :=
  let place :=
    if fault.first = fault.last then
      "character '" ++ String.ofList (hexEscape fault.point.number) ++ "' in position "
        ++ toString fault.first
    else "characters in position " ++ toString fault.first ++ "-" ++ toString fault.last
  "'utf-8' codec can't encode " ++ place ++ ": surrogates not allowed"

def rawByte? (point : CodePoint) : Option UInt8 :=
  if 0xDC80 ≤ point.number ∧ point.number ≤ 0xDCFF then
    some (UInt8.ofNat (point.number - 0xDC00))
  else none

def surrogateOf (byte : UInt8) : CodePoint :=
  ⟨0xDC00 + byte.toNat, by
    have bound := byte.toNat_lt
    omega⟩

def bytesFrom (position : Nat) : Text → Except EncodingFault Bytes
  | [] => .ok []
  | point :: rest =>
    match point.char?, rawByte? point with
    | some character, _ =>
      (bytesFrom (position + 1) rest).map (Utf8.encode (String.singleton character) ++ ·)
    | none, some byte => (bytesFrom (position + 1) rest).map (byte :: ·)
    | none, none =>
      .error ⟨point, position, position + (rest.takeWhile CodePoint.isSurrogate).length⟩

def byteForm (text : Text) : Except EncodingFault Bytes := bytesFrom 0 text

def external (text : Text) : Except EncodingFault String := (byteForm text).map ofOctets

def leading? (bytes : Bytes) : Option (Char × Nat) :=
  [1, 2, 3, 4].findSome? fun count =>
    match Utf8.decode? (bytes.take count) with
    | some [character] => some (character, count)
    | _ => none

/-- The text of bytes; a byte that is no part of a character appears as a surrogate. -/
def ofBytes : Bytes → Text
  | [] => []
  | byte :: rest =>
    match leading? (byte :: rest) with
    | some (character, count) =>
      CodePoint.ofChar character :: ofBytes (rest.drop (count - 1))
    | none => surrogateOf byte :: ofBytes rest
termination_by bytes => bytes.length
decreasing_by all_goals simp +arith

def ofExternal (name : String) : Text := ofBytes (octets name)

end ChartManifests.Text
