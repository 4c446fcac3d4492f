import ChartManifests.Rules.Grammar
import ChartManifests.Program.Printing
/-!
The tokens of a program of rules. A slash begins a regular expression where a value is expected, and
divides elsewhere; so the tokens are taken one by one, as the reader asks for them.
-/

namespace ChartManifests.Rules

structure Cursor where
  rest : List Char
  line : Nat
  calls : List String
deriving DecidableEq, Repr

inductive Token
  | number (value : Double) (spelling : String)
  | text (value spelling : String)
  | word (name : String)
  | called (name : String)
  | sign (spelling : String)
  | newline
  | ending
deriving DecidableEq, Repr

inductive Fault
  | reading (line : Nat) (text : String)
  | strange (line : Nat) (character : Char)
deriving DecidableEq, Repr

def Fault.message (origin : String) : Fault → String
  | reading line text => origin ++ "line " ++ toString line ++ ": " ++ text
  | strange line character =>
    toString line ++ ": unexpected character '" ++ character.toString ++ "'"

def keywords : List String :=
  ["BEGIN", "END", "function", "if", "else", "while", "for", "do", "break", "continue",
    "next", "nextfile", "exit", "return", "delete", "in", "getline", "print", "printf"]

def builtinNames : List String :=
  ["length", "index", "substr", "split", "sub", "gsub", "match", "sprintf", "sin", "cos", "atan2",
    "exp", "log", "sqrt", "int", "rand", "srand", "tolower", "toupper", "system", "close", "fflush",
    "systime", "mktime", "strftime"]

def signs : List String :=
  ["&&", "||", "++", "--", "+=", "-=", "*=", "/=", "%=", "^=", "==", "<=", ">=", "!=", "!~", ">>",
    "\x7b", "\x7d", "(", ")", "[", "]", ";", ",", "+", "-", "*", "/", "%", "^", "!", ">", "<", "|",
    "?", ":", "~", "$", "="]

def skipBlanks : Nat → Cursor → Cursor
  | 0, cursor => cursor
  | bound + 1, cursor =>
    match cursor.rest with
    | '\\' :: '\n' :: rest => skipBlanks bound { cursor with rest, line := cursor.line + 1 }
    | '\\' :: '\r' :: '\n' :: rest => skipBlanks bound { cursor with rest, line := cursor.line + 1 }
    | '#' :: rest => { cursor with rest := rest.dropWhile (· ≠ '\n') }
    | character :: rest =>
      if [' ', '\t', '\r', '\x0b', '\x0c'].contains character then
        skipBlanks bound { cursor with rest }
      else cursor
    | [] => cursor

def escapeOf (characters : List Char) : Option (Char × List Char) :=
  match characters with
  | 'n' :: rest => some ('\n', rest)
  | 't' :: rest => some ('\t', rest)
  | 'f' :: rest => some ('\x0c', rest)
  | 'b' :: rest => some ('\x08', rest)
  | 'r' :: rest => some ('\r', rest)
  | 'a' :: rest => some ('\x07', rest)
  | 'v' :: rest => some ('\x0b', rest)
  | '\\' :: rest => some ('\\', rest)
  | '"' :: rest => some ('"', rest)
  | 'x' :: rest =>
    let digits := (rest.takeWhile Program.isHexadecimal).take 2
    if digits.isEmpty then none
    else some (Char.ofNat (Program.hexValue digits), rest.drop digits.length)
  | character :: _ =>
    let digits := (characters.takeWhile Program.isOctal).take 3
    if Program.isOctal character then
      some (Char.ofNat (Program.octalValue digits % 256), characters.drop digits.length)
    else none
  | [] => none

def withoutEscapes : Nat → List Char → List Char
  | 0, characters => characters
  | _ + 1, [] => []
  | bound + 1, '\\' :: rest =>
    match escapeOf rest with
    | some (character, after) => character :: withoutEscapes bound after
    | none =>
      match rest with
      | character :: after => '\\' :: character :: withoutEscapes bound after
      | [] => ['\\']
  | bound + 1, character :: rest => character :: withoutEscapes bound rest

/-- What stands between two double quotes, and what follows them. A backslash in front of the end of
a line joins the next line. -/
def quotedText : List Char → Option (List Char × List Char)
  | '"' :: rest => some ([], rest)
  | '\n' :: _ | [] => none
  | '\\' :: '\n' :: rest => quotedText rest
  | '\\' :: character :: rest =>
    (quotedText rest).map fun (inner, after) => ('\\' :: character :: inner, after)
  | character :: rest => (quotedText rest).map fun (inner, after) => (character :: inner, after)

def patternText : Bool → List Char → Option (List Char × List Char)
  | _, [] | _, '\n' :: _ => none
  | boxed, '\\' :: '/' :: rest =>
    (patternText boxed rest).map fun (inner, after) => ('/' :: inner, after)
  | boxed, '\\' :: '\n' :: rest => patternText boxed rest
  | boxed, '\\' :: character :: rest =>
    (patternText boxed rest).map fun (inner, after) => ('\\' :: character :: inner, after)
  | true, ']' :: rest => (patternText false rest).map fun (inner, after) => (']' :: inner, after)
  | false, '[' :: '^' :: ']' :: rest =>
    (patternText true rest).map fun (inner, after) => ('[' :: '^' :: ']' :: inner, after)
  | false, '[' :: ']' :: rest =>
    (patternText true rest).map fun (inner, after) => ('[' :: ']' :: inner, after)
  | false, '[' :: rest => (patternText true rest).map fun (inner, after) => ('[' :: inner, after)
  | boxed, character :: rest =>
    if character = '/' && !boxed then some ([], rest)
    else (patternText boxed rest).map fun (inner, after) => (character :: inner, after)

def numberAt (characters : List Char) : Option (Double × List Char) :=
  match Program.mantissaOf 10 Char.isDigit characters with
  | some (value, places, rest) =>
    let (power, last) := Program.powerOf 'e' rest
    some (Double.ofDecimal false value (power - places), last)
  | none => none

namespace Cursor

def skipBlanks (cursor : Cursor) : Cursor := Rules.skipBlanks (cursor.rest.length + 1) cursor

def startsName (character : Char) : Bool := character.isAlpha || character = '_'

def continuesName (character : Char) : Bool := character.isAlphanum || character = '_'

def next (cursor : Cursor) : Except Fault (Token × Cursor) :=
  let here := cursor.skipBlanks
  let behind (rest : List Char) : Cursor := { here with rest }
  match here.rest with
  | [] => .ok (.ending, here)
  | '\n' :: rest => .ok (.newline, { here with rest, line := here.line + 1 })
  | '"' :: rest =>
    match quotedText rest with
    | some (inner, after) =>
      let value := withoutEscapes (inner.length + 1) inner
      let lines := (rest.take (rest.length - after.length)).count '\n'
      .ok (.text (String.ofList value) (String.ofList inner),
        { here with rest := after, line := here.line + lines })
    | none =>
      .error (.reading here.line ("runaway string constant \""
        ++ String.ofList ((rest.takeWhile (· ≠ '\n')).take 10) ++ " ..."))
  | character :: rest =>
    if startsName character then
      let name := String.ofList (here.rest.takeWhile continuesName)
      let after := here.rest.drop name.length
      if after.head? = some '(' && !keywords.contains name && !builtinNames.contains name then
        .ok (.called name, behind after)
      else .ok (.word name, behind after)
    else if character.isDigit || (character = '.' && rest.head?.any Char.isDigit) then
      match numberAt here.rest with
      | some (value, after) =>
        let spelling := here.rest.take (here.rest.length - after.length)
        .ok (.number value (String.ofList spelling), behind after)
      | none => .error (.reading here.line "syntax error")
    else
      match signs.find? fun sign => sign.toList.isPrefixOf here.rest with
      | some sign => .ok (.sign sign, behind (here.rest.drop sign.length))
      | none => .error (.strange here.line character)

def pattern (cursor : Cursor) : Except Fault (String × Cursor) :=
  match patternText false cursor.rest with
  | some (inner, after) => .ok (String.ofList inner, { cursor with rest := after })
  | none =>
    .error (.reading cursor.line ("runaway regular expression /"
      ++ String.ofList ((cursor.rest.takeWhile (· ≠ '\n')).take 10) ++ " ..."))

end Cursor

def Token.shown : Token → String
  | number _ spelling => spelling
  | text _ spelling => spelling
  | word name | called name => name
  | sign spelling => spelling
  | newline => "end of line"
  | ending => "end of file"

end ChartManifests.Rules
