import ChartManifests.Number.Whole
import ChartManifests.Text.Utf8
/-!
Names as complaints show them. A name is put between quotes where a shell would not take it as it
stands; what cannot be printed appears as an escape, which has quotes of its own.
-/

namespace ChartManifests.Text

def isShown (character : Char) : Bool := ' ' ≤ character && character ≤ '~'

def escapeLetter? (character : Char) : Option Char :=
  match character.toNat with
  | 7 => some 'a'
  | 8 => some 'b'
  | 9 => some 't'
  | 10 => some 'n'
  | 11 => some 'v'
  | 12 => some 'f'
  | 13 => some 'r'
  | _ => none

def escapeOf (character : Char) : List Char :=
  match escapeLetter? character with
  | some letter => ['\\', letter]
  | none =>
    let digit (place : Nat) : Char := Char.ofNat (48 + character.toNat / 8 ^ place % 8)
    ['\\', digit 2, digit 1, digit 0]

def isPlainInName (character : Char) : Bool :=
  character.isAlphanum || "%+,-./:@]_".toList.contains character

def isPlainName (characters : List Char) : Bool :=
  characters ≠ [] && characters ≠ ['\x7b'] && characters ≠ ['\x7d']
    && (characters.head?.all fun first => first ≠ '#' && first ≠ '~')
    && characters.all fun character =>
      isPlainInName character || ['\x7b', '\x7d', '#', '~'].contains character

/-- A name between single quotes, behind the opening one; `escaping` tells that the quotes of an
escape are open. -/
def betweenQuotes : Bool → List Char → List Char
  | _, [] => ['\'']
  | escaping, character :: rest =>
    if isShown character then
      (if escaping then ['\'', '\''] else [])
        ++ (if character = '\'' then ['\'', '\\', '\''] else [character])
        ++ betweenQuotes false rest
    else
      (if escaping then [] else ['\'', '$', '\'']) ++ escapeOf character ++ betweenQuotes true rest

def quotedName (name : String) : String :=
  let characters := name.toList
  let isSimple := characters.all fun character =>
    isPlainInName character || character = '\'' || character = ' '
  if characters.contains '\'' && isSimple then "\"" ++ name ++ "\""
  else String.ofList ('\'' :: betweenQuotes false characters)

def shownName (name : String) : String :=
  if isPlainName name.toList then name else quotedName name

def quotedWord (word : String) : String :=
  String.ofList (['\''] ++ (word.toList.flatMap fun character =>
    if character = '\'' ∨ character = '\\' then ['\\', character]
    else if isShown character then [character] else escapeOf character) ++ ['\''])

end ChartManifests.Text
