/-!
UTF-8 bytes read one at a time. A byte either extends the character that is being read, completes
it, or shows that the bytes read so far are malformed; a malformed part counts once, however many
bytes it has.

Programs that know of no characters but bytes look at texts with a character for each byte; a text of
ASCII is the same in both ways.
-/

namespace ChartManifests.Text

abbrev Bytes := List UInt8

def replacementCharacter : Char := '\uFFFD'

namespace Utf8

/-- A character that has begun: how many bytes it still owes, the range its next byte must fall
in, and the bits collected so far. -/
structure Pending where
  owed : Nat
  low : UInt8
  high : UInt8
  bits : Nat
deriving DecidableEq, Repr

/-- What one byte yields: the characters that it completes (`none` marks a malformed part), and
the character that is begun after it. -/
structure Step where
  emitted : List (Option Char)
  pending : Option Pending
deriving DecidableEq, Repr

/-- Reads a byte that follows a complete character. The ranges for the second byte exclude
overlong forms, surrogates and everything above the last code point. -/
def first (byte : UInt8) : Step :=
  let bits := byte.toNat
  if byte < 0x80 then ⟨[some (Char.ofNat bits)], none⟩
  else if byte < 0xC2 then ⟨[none], none⟩
  else if byte < 0xE0 then ⟨[], some ⟨1, 0x80, 0xBF, bits - 0xC0⟩⟩
  else if byte == 0xE0 then ⟨[], some ⟨2, 0xA0, 0xBF, 0⟩⟩
  else if byte == 0xED then ⟨[], some ⟨2, 0x80, 0x9F, 13⟩⟩
  else if byte < 0xF0 then ⟨[], some ⟨2, 0x80, 0xBF, bits - 0xE0⟩⟩
  else if byte == 0xF0 then ⟨[], some ⟨3, 0x90, 0xBF, 0⟩⟩
  else if byte < 0xF4 then ⟨[], some ⟨3, 0x80, 0xBF, bits - 0xF0⟩⟩
  else if byte == 0xF4 then ⟨[], some ⟨3, 0x80, 0x8F, 4⟩⟩
  else ⟨[none], none⟩

/-- Reads one byte. A byte outside the expected range ends the begun character as malformed and is
then read as the first byte of the next one. -/
def step (pending : Option Pending) (byte : UInt8) : Step :=
  match pending with
  | none => first byte
  | some begun =>
    if begun.low ≤ byte ∧ byte ≤ begun.high then
      let bits := begun.bits * 64 + byte.toNat % 64
      if begun.owed ≤ 1 then ⟨[some (Char.ofNat bits)], none⟩
      else ⟨[], some ⟨begun.owed - 1, 0x80, 0xBF, bits⟩⟩
    else
      let next := first byte
      ⟨none :: next.emitted, next.pending⟩

def parts (pending : Option Pending) : Bytes → List (Option Char)
  | [] => if pending.isSome then [none] else []
  | byte :: rest =>
    let next := step pending byte
    next.emitted ++ parts next.pending rest

def decodeLossy (bytes : Bytes) : List Char :=
  (parts none bytes).map (·.getD replacementCharacter)

def decode? (bytes : Bytes) : Option (List Char) :=
  (parts none bytes).mapM id

def encode (text : String) : Bytes :=
  text.toUTF8.toList

end Utf8

def charactersOf (bytes : Bytes) : List Char := bytes.map fun byte => Char.ofNat byte.toNat

def ofCharacters (characters : List Char) : Bytes :=
  characters.map fun character => UInt8.ofNat character.toNat

def octets (text : String) : Bytes := ofCharacters text.toList

def ofOctets (bytes : Bytes) : String := String.ofList (charactersOf bytes)

def isPlain (characters : List Char) : Bool :=
  characters.all fun character => character.toNat < 128

def bytewise (characters : List Char) : List Char :=
  if isPlain characters then characters
  else charactersOf (Utf8.encode (String.ofList characters))

def inOctets (text : String) : String := String.ofList (bytewise text.toList)

end ChartManifests.Text
