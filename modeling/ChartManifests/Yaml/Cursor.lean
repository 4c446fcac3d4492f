import ChartManifests.Text.Utf16
import ChartManifests.Yaml.Fault
/-!
The characters of a stream, and a position among them. Bytes are UTF-16 if they start with its byte
order mark and UTF-8 otherwise, and every character must be one that the format allows. A position
has the characters ahead, and the line and the column that they start in; the end of the stream
reads as a null character, which no stream contains.
-/

namespace ChartManifests.Yaml

inductive Source
  | text (content : Text)
  | bytes (content : Text.Bytes)
deriving DecidableEq, Repr

def isAllowed (character : Char) : Bool :=
  let code := character.toNat
  code = 0x9 || code = 0xA || code = 0xD || (0x20 ≤ code && code ≤ 0x7E) || code = 0x85
    || (0xA0 ≤ code && code ≤ 0xD7FF) || (0xE000 ≤ code && code ≤ 0xFFFD) || 0x10000 ≤ code

def byteOrderMark : Char := '\uFEFF'

def decode? : Source → Option (List Char)
  | .text content => content.chars?
  | .bytes (0xFF :: 0xFE :: rest) =>
    Text.Utf16.decode? .littleEndian (0xFF :: 0xFE :: rest)
  | .bytes (0xFE :: 0xFF :: rest) => Text.Utf16.decode? .bigEndian (0xFE :: 0xFF :: rest)
  | .bytes content => Text.Utf8.decode? content

def Source.characters (source : Source) : Except Fault (List Char) :=
  match decode? source with
  | some characters => if characters.all isAllowed then .ok characters else .error .malformed
  | none => .error .malformed

structure Cursor where
  rest : List Char
  index : Nat
  line : Nat
  column : Nat
deriving Repr

def endOfStream : Char := '\x00'

def isBreak (character : Char) : Bool :=
  character = '\n' || character = '\r' || character = '\u0085' || character = '\u2028'
    || character = '\u2029'

def isBreakOrEnd (character : Char) : Bool := character = endOfStream || isBreak character

def isSpaceOrEnd (character : Char) : Bool := character = ' ' || isBreakOrEnd character

def isGap (character : Char) : Bool := character = '\t' || isSpaceOrEnd character

def isWordCharacter (character : Char) : Bool :=
  ('0' ≤ character && character ≤ '9') || ('A' ≤ character && character ≤ 'Z')
    || ('a' ≤ character && character ≤ 'z') || character = '-' || character = '_'

def isHexDigit (character : Char) : Bool :=
  ('0' ≤ character && character ≤ '9') || ('A' ≤ character && character ≤ 'F')
    || ('a' ≤ character && character ≤ 'f')

namespace Cursor

def start (characters : List Char) : Cursor := ⟨characters, 0, 0, 0⟩

def peek (cursor : Cursor) (offset : Nat := 0) : Char := cursor.rest.getD offset endOfStream

def sees (cursor : Cursor) (word : List Char) : Bool := word.isPrefixOf cursor.rest

/-- One character on. A carriage return and a line feed together end one line, and a byte order
mark takes no column. -/
def next (cursor : Cursor) : Cursor :=
  match cursor.rest with
  | [] => cursor
  | character :: rest =>
    if isBreak character && !(character = '\r' && rest.head? = some '\n') then
      ⟨rest, cursor.index + 1, cursor.line + 1, 0⟩
    else if character = byteOrderMark then ⟨rest, cursor.index + 1, cursor.line, cursor.column⟩
    else ⟨rest, cursor.index + 1, cursor.line, cursor.column + 1⟩

def forward : Nat → Cursor → Cursor
  | 0, cursor => cursor
  | count + 1, cursor => forward count cursor.next

def take (cursor : Cursor) (condition : Char → Bool) : List Char × Cursor :=
  let word := cursor.rest.takeWhile condition
  (word, cursor.forward word.length)

def skip (cursor : Cursor) (condition : Char → Bool) : Cursor := (cursor.take condition).2

def skipSpaces (cursor : Cursor) : Cursor := cursor.skip (· = ' ')

def skipComment (cursor : Cursor) : Cursor :=
  if cursor.peek = '#' then cursor.skip (!isBreak ·) else cursor

/-- Reads a line break, if one is ahead: what it stands for in a text, and the position after it.
Every break but the two separators stands for a line feed. -/
def lineBreak (cursor : Cursor) : List Char × Cursor :=
  let character := cursor.peek
  if character = '\r' ∧ cursor.peek 1 = '\n' then (['\n'], cursor.forward 2)
  else if character = '\r' ∨ character = '\n' ∨ character = '\u0085' then (['\n'], cursor.next)
  else if isBreak character then ([character], cursor.next)
  else ([], cursor)

def seesMarker (cursor : Cursor) (marker : List Char) : Bool :=
  cursor.sees marker && isGap (cursor.peek 3)

def startMarker : List Char := ['-', '-', '-']

def endMarker : List Char := ['.', '.', '.']

def seesAnyMarker (cursor : Cursor) : Bool :=
  cursor.seesMarker startMarker || cursor.seesMarker endMarker

def emptyRest (cursor : Cursor) : Except Fault Cursor :=
  let after := cursor.skipSpaces.skipComment
  if isBreakOrEnd after.peek then .ok after.lineBreak.2 else .error .malformed

end Cursor

end ChartManifests.Yaml
