import ChartManifests.Program.Parameter
/-!
Texts as a script of the rich shell could spell them: between single quotes, between double quotes,
with backslashes, or with escapes where a text has more than printable characters.
-/

namespace ChartManifests.Program.Requoting

def needsEscapes (text : String) : Bool :=
  text.toList.any fun character => character.toNat < 32 || 126 < character.toNat

def escaped (character : Char) : List Char :=
  match character.toNat with
  | 7 => ['\\', 'a']
  | 8 => ['\\', 'b']
  | 9 => ['\\', 't']
  | 10 => ['\\', 'n']
  | 11 => ['\\', 'v']
  | 12 => ['\\', 'f']
  | 13 => ['\\', 'r']
  | 27 => ['\\', 'E']
  | 39 => ['\\', '\'']
  | 92 => ['\\', '\\']
  | code =>
    if code < 32 ∨ 126 < code then
      let digits := Nat.toDigits 8 code
      '\\' :: List.replicate (3 - digits.length) '0' ++ digits
    else [character]

def withEscapes (text : String) : String :=
  "$'" ++ String.ofList (text.toList.flatMap escaped) ++ "'"

def single (text : String) : String :=
  if text = "'" then "\\'"
  else
    "'" ++ String.ofList (text.toList.flatMap fun character =>
      if character = '\'' then "'\\''".toList else [character]) ++ "'"

def double (text : String) : String :=
  "\"" ++ String.ofList (text.toList.flatMap fun character =>
    if ['"', '$', '`', '\\'].contains character then ['\\', character] else [character]) ++ "\""

def slashed (text : String) : String :=
  let marked : List Char := " \t\n!\"$&'()*,;<>?[\\]^`\x7b|\x7d".toList
  let rec go : Option Char → List Char → List Char
    | _, [] => []
    | before, character :: rest =>
      let first := before.isNone && character = '#'
      let home := character = '~' && (before.isNone || before = some ':' || before = some '=')
      (if marked.contains character || first || home then ['\\', character] else [character])
        ++ go (some character) rest
  String.ofList (go none text.toList)

def hasMarks (text : String) : Bool :=
  let marked : List Char := " \t\n'\"\\|&;()<>!\x7b\x7d*[]?^$`".toList
  let rec go : Option Char → List Char → Bool
    | _, [] => false
    | before, character :: rest =>
      marked.contains character || (before.isNone && character = '#')
        || (character = '~' && (before.isNone || before = some ':' || before = some '='))
        || go (some character) rest
  go none text.toList

def reusable (text : String) : String :=
  if needsEscapes text then withEscapes text else single text

def word (text : String) : String :=
  if text = "" then "''" else if needsEscapes text then withEscapes text else slashed text

def listed (text : String) : String :=
  if needsEscapes text then withEscapes text else if hasMarks text then single text else text

def declared (text : String) : String :=
  if needsEscapes text then withEscapes text else double text

def traced (text : String) : String :=
  if text = "" then "''" else if hasMarks text then single text
  else if needsEscapes text then withEscapes text else text

def items (content : List (String × String)) (table : Bool) : String :=
  let key (text : String) : String :=
    if table && needsEscapes text then withEscapes text
    else if table && hasMarks text then double text else text
  "(" ++ " ".intercalate (content.map fun (place, value) =>
    "[" ++ key place ++ "]=" ++ declared value)
    ++ (if table && !content.isEmpty then " )" else ")")

end ChartManifests.Program.Requoting
