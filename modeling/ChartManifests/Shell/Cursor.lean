import ChartManifests.Shell.Grammar
import ChartManifests.Text.Split
/-!
Places in a script, and what is seen from there without reading on: where a word ends, what sign or
redirection begins, and which words have a meaning of their own. A fault knows the line that it was
found in.
-/

namespace ChartManifests.Shell

/-- Why a text is no script. Tokens are given as a message names them. The last ones are what the
rich shell finds: a mark without its partner, a token where none like it may stand, text that ends
too early, a list or a condition that goes wrong, and a loop without its three expressions. -/
inductive Fault
  | unterminatedQuote
  | unterminatedOutput
  | missingBrace
  | missingParentheses
  | badVariable
  | badFunction
  | unexpected (token : String) (awaited : Option String)
  | unmatched (mark : Char)
  | misplaced (token : String)
  | endOfFile
  | inList (token : String)
  | inCondition (reason token : String)
  | uncounted (text : String)
deriving DecidableEq, Repr

namespace Fault

def message : Fault → String
  | unterminatedQuote => "Syntax error: Unterminated quoted string"
  | unterminatedOutput => "Syntax error: EOF in backquote substitution"
  | missingBrace => "Syntax error: Missing '\x7d'"
  | missingParentheses => "Syntax error: Missing '))'"
  | badVariable => "Syntax error: Bad for loop variable"
  | badFunction => "Syntax error: Bad function name"
  | unexpected token awaited =>
    "Syntax error: " ++ token ++ " unexpected"
      ++ (match awaited with
        | some token => " (expecting " ++ token ++ ")"
        | none => "")
  | unmatched mark =>
    "unexpected EOF while looking for matching `" ++ String.singleton mark ++ "'"
  | misplaced token | inList token => "syntax error near unexpected token `" ++ token ++ "'"
  | endOfFile => "syntax error: unexpected end of file"
  | inCondition reason _ => reason
  | uncounted _ => "syntax error: arithmetic expression required"

def details (line : String) : Fault → List String
  | misplaced _ | inList _ => ["`" ++ line ++ "'"]
  | inCondition _ "" => ["syntax error: unexpected end of file"]
  | inCondition _ token => ["syntax error near `" ++ token ++ "'", "`" ++ line ++ "'"]
  | uncounted text => ["syntax error: `" ++ text ++ "'"]
  | _ => []

end Fault

structure Located where
  fault : Fault
  line : Nat
  shown : String
deriving DecidableEq, Repr

/-- A place in a script: the text from there, the number of the line, how many lines were taken out
of the text ahead, the other names that commands have, the shell that reads, whether it takes
parentheses behind some characters for parts of patterns, and all of the text with the number of its
first line. Documents that the text ended in are noted: the line of that, the line that they were
asked for in, and what would have ended them. -/
structure Cursor where
  rest : List Char
  line : Nat
  skipped : Nat
  aliases : List (String × String)
  variety : Variety
  grouping : Bool
  source : List Char
  firstLine : Nat
  openDocuments : List (Nat × Nat × String)

namespace Cursor

def start (variety : Variety) (characters : List Char) : Cursor where
  rest := characters
  line := 1
  skipped := 0
  aliases := []
  variety := variety
  grouping := false
  source := characters
  firstLine := 1
  openDocuments := []

def fresh (cursor : Cursor) (characters : List Char) : Cursor :=
  { start cursor.variety characters with grouping := cursor.grouping }

def isRich (cursor : Cursor) : Bool := cursor.variety = .rich

def isChannelHere (cursor : Cursor) : Bool :=
  cursor.isRich && (cursor.rest.take 2 = ['<', '('] || cursor.rest.take 2 = ['>', '('])

def lineText (cursor : Cursor) : String :=
  String.ofList (((Text.splitAt '\n' cursor.source)[cursor.line - cursor.firstLine]?).getD [])

def fail {α : Type} (cursor : Cursor) (fault : Fault) : Except Located α :=
  .error ⟨fault, cursor.line, if cursor.isRich then cursor.lineText else ""⟩

def failAtEnd {α : Type} (cursor : Cursor) (fault : Fault) : Except Located α :=
  .error ⟨fault, cursor.line + cursor.skipped + cursor.rest.count '\n', ""⟩

def failUnmatched {α : Type} (cursor : Cursor) (fault : Fault) (mark : Char) :
    Except Located α :=
  if cursor.isRich then cursor.fail (.unmatched mark) else cursor.failAtEnd fault

def opened {α : Type} (cursor : Cursor) (mark : Char) (result : Except Located α) :
    Except Located α :=
  match result with
  | .error ⟨.unmatched other, line, shown⟩ =>
    if other = mark then cursor.fail (.unmatched mark) else .error ⟨.unmatched other, line, shown⟩
  | other => other

def advance (cursor : Cursor) : Cursor :=
  match cursor.rest with
  | [] => cursor
  | '\n' :: rest => { cursor with rest, line := cursor.line + 1 + cursor.skipped, skipped := 0 }
  | _ :: rest => { cursor with rest }

def drop : Nat → Cursor → Cursor
  | 0, cursor => cursor
  | count + 1, cursor => drop count cursor.advance

end Cursor

def isBlank (character : Char) : Bool := character = ' ' || character = '\t'

def endsWord (character : Char) : Bool :=
  isBlank character || ['\n', ';', '&', '|', '<', '>', '(', ')'].contains character

def startsName (character : Char) : Bool := character.isAlpha || character = '_'

def continuesName (character : Char) : Bool := character.isAlphanum || character = '_'

def nameOf (characters : List Char) : List Char :=
  match characters with
  | first :: _ => if startsName first then characters.takeWhile continuesName else []
  | [] => []

def isSpecial (character : Char) : Bool := ['@', '*', '#', '?', '-', '$', '!'].contains character

def readUntil (stop : Char) : List Char → Option (List Char × List Char)
  | [] => none
  | character :: rest =>
    if character = stop then some ([], rest)
    else (readUntil stop rest).map fun (taken, after) => (character :: taken, after)

def readBackquoted (quoted : Bool) : List Char → Option (List Char × List Char)
  | [] => none
  | '`' :: rest => some ([], rest)
  | '\\' :: character :: rest =>
    let escapable := ['`', '\\', '$'].contains character || (quoted && character = '"')
    let kept := if escapable then [character] else ['\\', character]
    (readBackquoted quoted rest).map fun (taken, after) => (kept ++ taken, after)
  | character :: rest =>
    (readBackquoted quoted rest).map fun (taken, after) => (character :: taken, after)

def readExpression : Nat → List Char → Option (List Char × List Char)
  | _, [] => none
  | 0, ')' :: ')' :: rest => some ([], rest)
  | depth, character :: rest =>
    let deeper := if character = '(' then depth + 1 else if character = ')' then depth - 1
      else depth
    (readExpression deeper rest).map fun (taken, after) => (character :: taken, after)

def readCalculation : Nat → List Char → Option (List Char × List Char)
  | _, [] => none
  | depth, '\\' :: character :: rest =>
    (readCalculation depth rest).map fun (taken, after) => ('\\' :: character :: taken, after)
  | 0, ')' :: rest =>
    match rest with
    | ')' :: after => some ([], after)
    | _ => none
  | depth + 1, ')' :: rest =>
    (readCalculation depth rest).map fun (taken, after) => (')' :: taken, after)
  | depth, '(' :: rest =>
    (readCalculation (depth + 1) rest).map fun (taken, after) => ('(' :: taken, after)
  | depth, character :: rest =>
    (readCalculation depth rest).map fun (taken, after) => (character :: taken, after)

def isClosed : Nat → List Char → Bool
  | _, [] => false
  | depth, '\\' :: _ :: rest => isClosed depth rest
  | 0, ')' :: _ => true
  | depth + 1, ')' :: rest => isClosed depth rest
  | depth, '(' :: rest => isClosed (depth + 1) rest
  | depth, _ :: rest => isClosed depth rest

def readEscaped : List Char → Option (List Char × List Char)
  | [] => none
  | '\'' :: rest => some ([], rest)
  | '\\' :: character :: rest =>
    (readEscaped rest).map fun (taken, after) => ('\\' :: character :: taken, after)
  | character :: rest =>
    (readEscaped rest).map fun (taken, after) => (character :: taken, after)

def subscriptLength : Nat → List Char → Option Nat
  | _, [] => none
  | depth, '\\' :: _ :: rest => (subscriptLength depth rest).map (· + 2)
  | depth, '[' :: rest => (subscriptLength (depth + 1) rest).map (· + 1)
  | 0, ']' :: _ => none
  | 1, ']' :: _ => some 1
  | depth + 2, ']' :: rest => (subscriptLength (depth + 1) rest).map (· + 1)
  | depth, '\n' :: rest => if depth = 0 then none else (subscriptLength depth rest).map (· + 1)
  | depth, _ :: rest => (subscriptLength depth rest).map (· + 1)

inductive Surrounding
  | word
  | quotes
  | braces (quoted : Bool)
  | document
  | brackets
  | parentheses
  | expression
deriving DecidableEq, Repr

namespace Surrounding

def isQuoted : Surrounding → Bool
  | word => false
  | quotes => true
  | braces quoted => quoted
  | document => true
  | brackets | parentheses | expression => false

def ends : Surrounding → Char → Bool
  | word, character => endsWord character
  | quotes, character => character = '"'
  | braces _, character => character = '}'
  | document, _ => false
  | brackets, character => character = ']'
  | parentheses, character => character = ')'
  | expression, character => endsWord character && character ≠ '(' && character ≠ '|'

def escapes : Surrounding → Char → Bool
  | word, _ | brackets, _ | parentheses, _ | expression, _ => true
  | braces false, _ => true
  | quotes, character => ['$', '`', '"', '\\'].contains character
  | braces true, character => ['$', '`', '"', '\\', '}'].contains character
  | document, character => ['$', '`', '\\'].contains character

end Surrounding

def skipBlanks : Nat → Cursor → Cursor
  | 0, cursor => cursor
  | bound + 1, cursor =>
    match cursor.rest with
    | '\\' :: '\n' :: _ => skipBlanks bound (cursor.drop 2)
    | '#' :: rest => cursor.drop ((rest.takeWhile (· ≠ '\n')).length + 1)
    | character :: _ => if isBlank character then skipBlanks bound cursor.advance else cursor
    | [] => cursor

def skipLines : Nat → Cursor → Cursor
  | 0, cursor => cursor
  | bound + 1, cursor =>
    let next := skipBlanks cursor.rest.length cursor
    match next.rest with
    | '\n' :: _ => skipLines bound next.advance
    | _ => next

def Cursor.skipBlanks (cursor : Cursor) : Cursor := Shell.skipBlanks cursor.rest.length cursor

def Cursor.skipLines (cursor : Cursor) : Cursor := Shell.skipLines (cursor.rest.length + 1) cursor

def plainWord (cursor : Cursor) : String :=
  let taken := cursor.rest.takeWhile fun character => !endsWord character
  String.ofList taken

def closers : List String := ["then", "fi", "elif", "else", "do", "done", "esac", "\x7d"]

/-- The sign of a redirection: what it is for, how it opens its target, how long the sign is, and
whether complaints go the same way. -/
structure RedirectionSign where
  handle : Handle
  opening : Opening
  length : Nat
  joins : Bool

def openingOf (variety : Variety) : List Char → Option (Opening × Nat × Nat)
  | '<' :: '<' :: rest =>
    if variety = .rich && rest.head? = some '<' then some (.line, 3, 0) else some (.document, 2, 0)
  | '<' :: '&' :: _ => some (.duplicate, 2, 0)
  | '<' :: '>' :: _ => some (.both, 2, 0)
  | '<' :: rest =>
    if variety = .rich && rest.head? = some '(' then none else some (.reading, 1, 0)
  | '>' :: '>' :: _ => some (.appending, 2, 1)
  | '>' :: '&' :: _ => some (.duplicate, 2, 1)
  | '>' :: '|' :: _ => some (.replacing, 2, 1)
  | '>' :: rest =>
    if variety = .rich && rest.head? = some '(' then none else some (.writing, 1, 1)
  | _ => none

def isFileTarget (characters : List Char) : Bool :=
  match characters.dropWhile isBlank with
  | character :: _ => !(character.isDigit || ['-', '$', '"', '\''].contains character
      || endsWord character)
  | [] => false

def redirectionHere (variety : Variety) (characters : List Char) : Option RedirectionSign :=
  let digits := characters.takeWhile Char.isDigit
  let rich := variety = .rich
  match characters with
  | '&' :: '>' :: '>' :: _ =>
    if rich then some ⟨.number 1, .appending, 3, true⟩ else none
  | '&' :: '>' :: _ => if rich then some ⟨.number 1, .writing, 2, true⟩ else none
  | '>' :: '&' :: rest =>
    if rich && isFileTarget rest then some ⟨.number 1, .writing, 2, true⟩
    else some ⟨.number 1, .duplicate, 2, false⟩
  | '{' :: rest =>
    let name := nameOf rest
    match rest.drop name.length with
    | '}' :: behind =>
      if rich && !name.isEmpty then
        (openingOf variety behind).map fun (opening, length, _) =>
          ⟨.named (String.ofList name), opening, name.length + 2 + length, false⟩
      else none
    | _ => none
  | _ =>
    (openingOf variety (characters.drop digits.length)).map fun (opening, length, usual) =>
      let descriptor := if digits.isEmpty then usual else (String.ofList digits).toNat?.getD usual
      ⟨.number descriptor, opening, digits.length + length, false⟩

def reservedWords : Variety → List String
  | .plain =>
    ["!", "case", "do", "done", "elif", "else", "esac", "fi", "for", "if", "in", "then", "until",
      "while", "\x7b", "\x7d"]
  | .rich =>
    ["if", "then", "else", "elif", "fi", "case", "esac", "for", "select", "while", "until", "do",
      "done", "in", "function", "time", "\x7b", "\x7d", "!", "[[", "]]", "coproc"]

def signs : Variety → List String
  | .plain => [";;", "&&", "||", ";", "&", "|", "(", ")"]
  | .rich => [";;&", ";;", ";&", "&&", "||", "|&", ";", "&", "|", "(", ")"]

def spelled (token : String) : String := "\"" ++ token ++ "\""

/-- The token that begins here, as a message names it. `reserved` tells whether words have a meaning
of their own here. -/
def tokenHere (reserved : Bool) (cursor : Cursor) : String :=
  match cursor.rest with
  | [] => "end of file"
  | '\n' :: _ => "newline"
  | characters =>
    if (redirectionHere cursor.variety characters).isSome then "redirection"
    else
      match (signs cursor.variety).find? fun sign => sign.toList.isPrefixOf characters with
      | some sign => spelled sign
      | none =>
        let word := plainWord cursor
        if reserved && (reservedWords cursor.variety).contains word then spelled word else "word"

def tokenText (cursor : Cursor) : String :=
  match cursor.rest with
  | [] => ""
  | '\n' :: _ => "newline"
  | characters =>
    match redirectionHere cursor.variety characters with
    | some sign =>
      String.ofList ((characters.take sign.length).dropWhile Char.isDigit)
    | none =>
      ((signs cursor.variety).find? fun sign => sign.toList.isPrefixOf characters).getD
        (plainWord cursor)

def Cursor.unexpected {α : Type} (cursor : Cursor) (reserved : Bool) (awaited : Option String) :
    Except Located α :=
  let here := cursor.skipBlanks
  match cursor.variety, here.rest with
  | .rich, [] => here.failAtEnd .endOfFile
  | .rich, _ => here.fail (.misplaced (tokenText here))
  | .plain, rest =>
    let fault := Fault.unexpected (tokenHere reserved here) awaited
    match rest with
    | [] => here.failAtEnd fault
    | '\n' :: _ => here.advance.fail fault
    | _ => here.fail fault

end ChartManifests.Shell
