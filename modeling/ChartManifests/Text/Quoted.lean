import ChartManifests.Text.CodePoint
import ChartManifests.Text.Printable
import ChartManifests.Text.Utf8
/-!
Text between quotes, as it is shown inside a message. Single quotes are used unless the text has a
single quote and no double quote. Code points that are not printable, surrogates among them, appear
as escapes.
-/

namespace ChartManifests.Text

def hexDigits : Nat → Nat → List Char
  | 0, _ => []
  | width + 1, number => hexDigits width (number / 16) ++ [Nat.digitChar (number % 16)]

/-- The shortest escape that can name a character: two, four or eight hexadecimal digits. -/
def hexEscape (code : Nat) : List Char :=
  if code < 0x100 then '\\' :: 'x' :: hexDigits 2 code
  else if code < 0x10000 then '\\' :: 'u' :: hexDigits 4 code
  else '\\' :: 'U' :: hexDigits 8 code

def quoteFor (text : Text) : Char :=
  if text.contains (CodePoint.ofChar '\'') && !text.contains (CodePoint.ofChar '"') then '"'
  else '\''

def showCharacter (quote character : Char) : List Char :=
  if character = quote ∨ character = '\\' then ['\\', character]
  else if character = '\n' then ['\\', 'n']
  else if character = '\r' then ['\\', 'r']
  else if character = '\t' then ['\\', 't']
  else if isPrintable character then [character]
  else hexEscape character.toNat

def showPoint (quote : Char) (point : CodePoint) : List Char :=
  match point.char? with
  | some character => showCharacter quote character
  | none => hexEscape point.number

def quoted (text : Text) : String :=
  let quote := quoteFor text
  String.ofList (quote :: text.flatMap (showPoint quote) ++ [quote])

/-- A byte string between quotes: bytes outside printable ASCII appear as escapes, and a `b`
stands in front. -/
def quotedBytes (bytes : Bytes) : String :=
  let characters := bytes.map fun byte => Char.ofNat byte.toNat
  let quote := quoteFor (ofChars characters)
  let shown := characters.flatMap fun character =>
    if character.toNat < 0x7F then showCharacter quote character else hexEscape character.toNat
  String.ofList ('b' :: quote :: shown ++ [quote])

def writable (text : Text) : String :=
  String.ofList (text.flatMap fun point =>
    match point.char? with
    | some character => [character]
    | none => hexEscape point.number)

end ChartManifests.Text
