import ChartManifests.Text.CodePoint
import ChartManifests.Text.Utf8
import ChartManifests.Yaml.Cursor
/-!
The tokens of a stream, and those that stand on one line: directives, anchors, aliases and tags. In
tokens indentation has become explicit: a block collection starts and ends with one. Each reader
returns its token and the position after it.
-/

namespace ChartManifests.Yaml

inductive Directive
  | version (major minor : Nat)
  | tagHandle (handle expansion : List Char)
  | reserved
deriving DecidableEq, Repr

inductive Token
  | directive (content : Directive)
  | documentStart
  | documentEnd
  | streamEnd
  | blockSequenceStart
  | blockMappingStart
  | blockEnd
  | flowSequenceStart
  | flowSequenceEnd
  | flowMappingStart
  | flowMappingEnd
  | blockEntry
  | flowEntry
  | key
  | value
  | alias (name : List Char)
  | anchor (name : List Char)
  | tag (handle : Option (List Char)) (suffix : List Char)
  | scalar (text : Text) (plain : Bool)
deriving DecidableEq, Repr

def expect (cursor : Cursor) (condition : Char → Bool) : Except Fault Unit :=
  if condition cursor.peek then .ok () else .error .malformed

def hexValue (digits : List Char) : Nat :=
  digits.foldl (fun total digit =>
    let code := digit.toNat
    let value :=
      if code ≤ 0x39 then code - 0x30 else if code ≤ 0x46 then code - 0x37 else code - 0x57
    total * 16 + value) 0

def decimalValue (digits : List Char) : Nat :=
  digits.foldl (fun total digit => total * 10 + (digit.toNat - 0x30)) 0

def scanWord (cursor : Cursor) : Except Fault (List Char × Cursor) :=
  let (word, after) := cursor.take isWordCharacter
  if word.isEmpty then .error .malformed else .ok (word, after)

def scanNumber (cursor : Cursor) : Except Fault (Nat × Cursor) :=
  let (digits, after) := cursor.take fun character => '0' ≤ character && character ≤ '9'
  if digits.isEmpty then .error .malformed
  else if Numeral.digitLimit < digits.length then
    .error (.scalar (.tooManyDigits digits.length))
  else .ok (decimalValue digits, after)

def scanHandle (cursor : Cursor) : Except Fault (List Char × Cursor) := do
  expect cursor (· = '!')
  if cursor.peek 1 = ' ' then .ok (['!'], cursor.next)
  else
    let (word, after) := cursor.next.take isWordCharacter
    expect after (· = '!')
    .ok ('!' :: word ++ ['!'], after.next)

def isUriCharacter (character : Char) : Bool :=
  isWordCharacter character
    || [';', '/', '?', ':', '@', '&', '=', '+', '$', ',', '.', '!', '~', '*', '\'', '(', ')', '[',
      ']'].contains character

def scanPercents : Nat → Cursor → Except Fault (Text.Bytes × Cursor)
  | 0, cursor => .ok ([], cursor)
  | fuel + 1, cursor =>
    if cursor.peek = '%' then
      if isHexDigit (cursor.peek 1) && isHexDigit (cursor.peek 2) then do
        let byte := UInt8.ofNat (hexValue [cursor.peek 1, cursor.peek 2])
        let (rest, after) ← scanPercents fuel (cursor.forward 3)
        .ok (byte :: rest, after)
      else .error .malformed
    else .ok ([], cursor)

def scanUriParts : Nat → Cursor → Except Fault (List Char × Cursor)
  | 0, cursor => .ok ([], cursor)
  | fuel + 1, cursor =>
    if isUriCharacter cursor.peek then do
      let (word, after) := cursor.take isUriCharacter
      let (rest, last) ← scanUriParts fuel after
      .ok (word ++ rest, last)
    else if cursor.peek = '%' then do
      let (bytes, after) ← scanPercents cursor.rest.length cursor
      match Text.Utf8.decode? bytes with
      | some word =>
        let (rest, last) ← scanUriParts fuel after
        .ok (word ++ rest, last)
      | none => .error .malformed
    else .ok ([], cursor)

def scanUri (cursor : Cursor) : Except Fault (List Char × Cursor) :=
  if isUriCharacter cursor.peek || cursor.peek = '%' then scanUriParts cursor.rest.length cursor
  else .error .malformed

def scanDirective (cursor : Cursor) : Except Fault (Token × Cursor) := do
  let (name, afterName) ← scanWord cursor.next
  expect afterName isSpaceOrEnd
  if name = ['Y', 'A', 'M', 'L'] then
    let (major, afterMajor) ← scanNumber afterName.skipSpaces
    expect afterMajor (· = '.')
    let (minor, afterMinor) ← scanNumber afterMajor.next
    expect afterMinor isSpaceOrEnd
    .ok (.directive (.version major minor), ← afterMinor.emptyRest)
  else if name = ['T', 'A', 'G'] then
    let (handle, afterHandle) ← scanHandle afterName.skipSpaces
    expect afterHandle (· = ' ')
    let (expansion, afterUri) ← scanUri afterHandle.skipSpaces
    expect afterUri isSpaceOrEnd
    .ok (.directive (.tagHandle handle expansion), ← afterUri.emptyRest)
  else .ok (.directive .reserved, ← (afterName.skip (!isBreak ·)).emptyRest)

def scanAnchorName (cursor : Cursor) : Except Fault (List Char × Cursor) := do
  let (name, after) ← scanWord cursor.next
  expect after fun character =>
    isGap character || ['?', ':', ',', ']', '}', '%', '@', '`'].contains character
  .ok (name, after)

def hasHandle (cursor : Cursor) : Bool :=
  ((cursor.next.rest.takeWhile (!isSpaceOrEnd ·)).contains '!')

def scanTag (cursor : Cursor) : Except Fault (Token × Cursor) := do
  let second := cursor.peek 1
  let (token, after) ←
    if second = '<' then do
      let (suffix, after) ← scanUri (cursor.forward 2)
      expect after (· = '>')
      .ok (Token.tag none suffix, after.next)
    else if isGap second then .ok (Token.tag none ['!'], cursor.next)
    else if hasHandle cursor then do
      let (handle, afterHandle) ← scanHandle cursor
      let (suffix, after) ← scanUri afterHandle
      .ok (Token.tag (some handle) suffix, after)
    else do
      let (suffix, after) ← scanUri cursor.next
      .ok (Token.tag (some ['!']) suffix, after)
  expect after isSpaceOrEnd
  .ok (token, after)

end ChartManifests.Yaml
