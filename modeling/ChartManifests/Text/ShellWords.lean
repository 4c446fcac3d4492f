import ChartManifests.Text.CodePoint
/-!
Words of a command line. A line shows a list of words so that a shell reads the same words back:
a word that could be taken for anything else stands between single quotes, and a single quote
inside of it stands between double quotes.
-/

namespace ChartManifests.Text

def isPlainInShell (point : CodePoint) : Bool :=
  match point.char? with
  | some character =>
    character.isAlphanum || ['_', '@', '%', '+', '=', ':', ',', '.', '/', '-'].contains character
  | none => false

def singleQuote : CodePoint := '\''

def space : CodePoint := ' '

/-- A single quote outside of quotes: the quotes are closed, it is quoted otherwise, and they are
opened again. -/
def quoteInQuotes : Text := [singleQuote, '"', singleQuote, '"', singleQuote]

def insideQuotes : Text → Text
  | [] => []
  | point :: rest =>
    (if point = singleQuote then quoteInQuotes else [point]) ++ insideQuotes rest

def shellWord (word : Text) : Text :=
  if word.isEmpty then [singleQuote, singleQuote]
  else if word.all isPlainInShell then word
  else singleQuote :: insideQuotes word ++ [singleQuote]

def shellLine : List Text → Text
  | [] => []
  | [word] => shellWord word
  | word :: rest => shellWord word ++ space :: shellLine rest

inductive Quotation
  | bare
  | single
  | double
deriving DecidableEq, Repr

def isSeparator (point : CodePoint) : Bool :=
  point = space || point = '\t' || point = '\r' || point = '\n'

/-- Reads words as a shell does: separators end a word, single quotes keep everything, double
quotes keep everything but an escaped quote or backslash, and a backslash keeps the next character.
`word` is the word that has begun. A quotation that is not closed has no words. -/
def readWords : Quotation → Option Text → Text → Option (List Text)
  | .bare, none, [] => some []
  | .bare, some word, [] => some [word]
  | .single, _, [] => none
  | .double, _, [] => none
  | .bare, word, point :: rest =>
    if isSeparator point then
      match word with
      | some word => (readWords .bare none rest).map (word :: ·)
      | none => readWords .bare none rest
    else if point = singleQuote then readWords .single (some (word.getD [])) rest
    else if point = '"' then readWords .double (some (word.getD [])) rest
    else if point = '\\' then
      match rest with
      | [] => none
      | next :: after => readWords .bare (some (word.getD [] ++ [next])) after
    else readWords .bare (some (word.getD [] ++ [point])) rest
  | .single, word, point :: rest =>
    if point = singleQuote then readWords .bare (some (word.getD [])) rest
    else readWords .single (some (word.getD [] ++ [point])) rest
  | .double, word, point :: rest =>
    if point = '"' then readWords .bare (some (word.getD [])) rest
    else if point = '\\' then
      match rest with
      | [] => none
      | next :: after =>
        let kept := if next = '"' ∨ next = '\\' then [next] else [point, next]
        readWords .double (some (word.getD [] ++ kept)) after
    else readWords .double (some (word.getD [] ++ [point])) rest

def shellSplit (line : Text) : Option (List Text) := readWords .bare none line

end ChartManifests.Text
