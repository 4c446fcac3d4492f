import ChartManifests.Yaml.Token.Scalar
/-!
The tokens of a whole stream.

A simple key shows only at the colon behind it. The place of every token that may turn out to be
one is remembered, and the tokens that begin a mapping and a key are inserted there when the colon
comes. A key must fit on one line and in 1024 characters; where the indentation leaves no other
reading, its colon must come.
-/

namespace ChartManifests.Yaml

structure PossibleKey where
  slot : Nat
  required : Bool
  index : Nat
  line : Nat
  column : Nat

/-- How far a stream has been read. Possible keys are listed by the number of flow brackets that
they stand in; the block collections around the current one are listed by their columns. -/
structure Lexer where
  cursor : Cursor
  flowLevel : Nat
  indentation : Int
  outer : List Int
  keyAllowed : Bool
  keys : List (Nat × PossibleKey)
  tokens : Array Token
  finished : Bool

structure TokenStream where
  tokens : List Token
  fault : Option Fault

def longestKey : Nat := 1024

namespace Lexer

def start (characters : List Char) : Lexer :=
  ⟨Cursor.start characters, 0, -1, [], true, [], #[], false⟩

def inFlow (lexer : Lexer) : Bool := lexer.flowLevel ≠ 0

def least (lexer : Lexer) : Nat := (lexer.indentation + 1).toNat

def column (lexer : Lexer) : Nat := lexer.cursor.column

def add (lexer : Lexer) (token : Token) : Lexer :=
  { lexer with tokens := lexer.tokens.push token }

def addUpTo (lexer : Lexer) (token : Token) (after : Cursor) : Lexer :=
  { lexer with tokens := lexer.tokens.push token, cursor := after }

def allowKey (lexer : Lexer) (allowed : Bool) : Lexer := { lexer with keyAllowed := allowed }

def skipGaps : Nat → Lexer → Lexer
  | 0, lexer => lexer
  | fuel + 1, lexer =>
    let after := lexer.cursor.skipSpaces.skipComment
    if isBreak after.peek then
      skipGaps fuel
        { lexer with cursor := after.lineBreak.2, keyAllowed := lexer.keyAllowed || !lexer.inFlow }
    else { lexer with cursor := after }

def toNextToken (lexer : Lexer) : Lexer :=
  let cursor := lexer.cursor
  let first := if cursor.index = 0 ∧ cursor.peek = byteOrderMark then cursor.next else cursor
  skipGaps (first.rest.length + 1) { lexer with cursor := first }

def isStale (cursor : Cursor) (key : PossibleKey) : Bool :=
  key.line ≠ cursor.line || longestKey < cursor.index - key.index

def dropStaleKeys (lexer : Lexer) : Except Fault Lexer :=
  if lexer.keys.any fun key => isStale lexer.cursor key.2 && key.2.required then .error .malformed
  else .ok { lexer with keys := lexer.keys.filter fun key => !isStale lexer.cursor key.2 }

def possibleKey? (lexer : Lexer) : Option PossibleKey := lexer.keys.lookup lexer.flowLevel

def withoutKey (lexer : Lexer) : List (Nat × PossibleKey) :=
  lexer.keys.filter fun key => key.1 ≠ lexer.flowLevel

def dropKey (lexer : Lexer) : Except Fault Lexer :=
  match lexer.possibleKey? with
  | some key =>
    if key.required then .error .malformed else .ok { lexer with keys := lexer.withoutKey }
  | none => .ok lexer

def saveKey (lexer : Lexer) : Except Fault Lexer :=
  if lexer.keyAllowed then do
    let free ← lexer.dropKey
    let cursor := lexer.cursor
    let required := !lexer.inFlow && lexer.indentation = (cursor.column : Int)
    let key : PossibleKey :=
      ⟨lexer.tokens.size, required, cursor.index, cursor.line, cursor.column⟩
    .ok { free with keys := (lexer.flowLevel, key) :: free.keys }
  else .ok lexer

def unwindTo (column : Int) : List Int → Lexer → Lexer
  | [], lexer => lexer
  | outer :: rest, lexer =>
    if column < lexer.indentation then
      unwindTo column rest { lexer.add .blockEnd with indentation := outer, outer := rest }
    else lexer

def unwind (lexer : Lexer) (column : Int) : Lexer :=
  if lexer.inFlow then lexer else unwindTo column lexer.outer lexer

def indent? (lexer : Lexer) (column : Nat) : Option Lexer :=
  if lexer.indentation < column then
    some { lexer with indentation := column, outer := lexer.indentation :: lexer.outer }
  else none

def beginBlock (lexer : Lexer) (token : Token) : Except Fault Lexer :=
  if lexer.inFlow then .ok lexer
  else if lexer.keyAllowed then
    match lexer.indent? lexer.column with
    | some indented => .ok (indented.add token)
    | none => .ok lexer
  else .error .malformed

def addIndicator (lexer : Lexer) (token : Token) (width : Nat) : Lexer :=
  lexer.addUpTo token (lexer.cursor.forward width)

def betweenDocuments (lexer : Lexer) : Except Fault Lexer := do
  .ok ((← (lexer.unwind (-1)).dropKey).allowKey false)

def documentMarker (lexer : Lexer) (token : Token) : Except Fault Lexer := do
  .ok ((← lexer.betweenDocuments).addIndicator token 3)

def directive (lexer : Lexer) : Except Fault Lexer := do
  let between ← lexer.betweenDocuments
  let (token, after) ← scanDirective between.cursor
  .ok (between.addUpTo token after)

def streamEnd (lexer : Lexer) : Except Fault Lexer := do
  let between ← lexer.betweenDocuments
  .ok { between.add .streamEnd with finished := true }

def openFlow (lexer : Lexer) (token : Token) : Except Fault Lexer := do
  let saved ← lexer.saveKey
  let inside := { saved with flowLevel := saved.flowLevel + 1, keyAllowed := true }
  .ok (inside.addIndicator token 1)

def closeFlow (lexer : Lexer) (token : Token) : Except Fault Lexer := do
  let free ← lexer.dropKey
  let outside := { free with flowLevel := free.flowLevel - 1, keyAllowed := false }
  .ok (outside.addIndicator token 1)

def flowEntry (lexer : Lexer) : Except Fault Lexer := do
  .ok ((← (lexer.allowKey true).dropKey).addIndicator .flowEntry 1)

def blockEntry (lexer : Lexer) : Except Fault Lexer := do
  let inside ← lexer.beginBlock .blockSequenceStart
  .ok ((← (inside.allowKey true).dropKey).addIndicator .blockEntry 1)

def key (lexer : Lexer) : Except Fault Lexer := do
  let inside ← lexer.beginBlock .blockMappingStart
  .ok ((← (inside.allowKey (!lexer.inFlow)).dropKey).addIndicator .key 1)

/-- The colon behind a simple key inserts what precedes the key; any other colon has a key of its
own, or an empty one. -/
def value (lexer : Lexer) : Except Fault Lexer :=
  match lexer.possibleKey? with
  | some key =>
    let free := { lexer with keys := lexer.withoutKey, keyAllowed := false }
    let keyed := { free with tokens := free.tokens.insertIdxIfInBounds key.slot .key }
    let inside :=
      match if lexer.inFlow then none else keyed.indent? key.column with
      | some indented =>
        { indented with
            tokens := indented.tokens.insertIdxIfInBounds key.slot .blockMappingStart }
      | none => keyed
    .ok (inside.addIndicator .value 1)
  | none => do
    let inside ← lexer.beginBlock .blockMappingStart
    .ok ((← (inside.allowKey (!lexer.inFlow)).dropKey).addIndicator .value 1)

def keyToken (lexer : Lexer) (scan : Cursor → Except Fault (Token × Cursor)) :
    Except Fault Lexer := do
  let saved := (← lexer.saveKey).allowKey false
  let (token, after) ← scan saved.cursor
  .ok (saved.addUpTo token after)

def blockScalar (lexer : Lexer) (folded : Bool) : Except Fault Lexer := do
  let free ← (lexer.allowKey true).dropKey
  let (token, after) ← scanBlockScalar folded lexer.least free.cursor
  .ok (free.addUpTo token after)

def plainScalar (lexer : Lexer) : Except Fault Lexer := do
  let saved ← lexer.saveKey
  let scalar := scanPlainScalar lexer.inFlow lexer.least saved.cursor
  let token := Token.scalar (Text.ofChars scalar.text) true
  .ok ((saved.allowKey scalar.newLine).addUpTo token scalar.after)

def scanNamed (token : List Char → Token) (cursor : Cursor) : Except Fault (Token × Cursor) := do
  let (name, after) ← scanAnchorName cursor
  .ok (token name, after)

def readToken (lexer : Lexer) : Except Fault Lexer :=
  let cursor := lexer.cursor
  let beforeGap := isGap (cursor.peek 1)
  let atLineStart : Bool := cursor.column = 0
  let character := cursor.peek
  if character = endOfStream then lexer.streamEnd
  else if character = '%' && atLineStart then lexer.directive
  else if atLineStart && cursor.seesMarker Cursor.startMarker then
    lexer.documentMarker .documentStart
  else if atLineStart && cursor.seesMarker Cursor.endMarker then lexer.documentMarker .documentEnd
  else if character = '[' then lexer.openFlow .flowSequenceStart
  else if character = '{' then lexer.openFlow .flowMappingStart
  else if character = ']' then lexer.closeFlow .flowSequenceEnd
  else if character = '}' then lexer.closeFlow .flowMappingEnd
  else if character = ',' then lexer.flowEntry
  else if character = '-' && beforeGap then lexer.blockEntry
  else if character = '?' && (lexer.inFlow || beforeGap) then lexer.key
  else if character = ':' && (lexer.inFlow || beforeGap) then lexer.value
  else if character = '*' then lexer.keyToken (scanNamed .alias)
  else if character = '&' then lexer.keyToken (scanNamed .anchor)
  else if character = '!' then lexer.keyToken scanTag
  else if character = '|' && !lexer.inFlow then lexer.blockScalar false
  else if character = '>' && !lexer.inFlow then lexer.blockScalar true
  else if character = '\'' || character = '"' then lexer.keyToken scanQuotedScalar
  else if seesPlain lexer.inFlow cursor then lexer.plainScalar
  else .error .malformed

def step (lexer : Lexer) : Except Fault Lexer := do
  let ahead ← lexer.toNextToken.dropStaleKeys
  let read ← (ahead.unwind ahead.column).readToken
  if read.finished then .ok read else read.dropStaleKeys

def certainTokens (lexer : Lexer) : List Token :=
  lexer.keys.foldl (fun tokens key => tokens.take key.2.slot) lexer.tokens.toList

def run : Nat → Lexer → TokenStream
  | 0, lexer => ⟨lexer.certainTokens, some .malformed⟩
  | fuel + 1, lexer =>
    match lexer.step with
    | .ok next => if next.finished then ⟨next.tokens.toList, none⟩ else run fuel next
    | .error fault => ⟨lexer.certainTokens, some fault⟩

end Lexer

def TokenStream.ofCharacters (characters : List Char) : TokenStream :=
  Lexer.run (characters.length + 2) (Lexer.start characters)

end ChartManifests.Yaml
