import ChartManifests.Shell.Brace
import ChartManifests.Shell.Document
import ChartManifests.Shell.Escaped
/-!
Reading scripts. A script is read one line of statements at a time, so that the statements before
a line that cannot be read are still run.

The reader recurses on a bound that exceeds the depth of anything a text of that length can hold.
-/

namespace ChartManifests.Shell

def endsStatements (cursor : Cursor) : Bool :=
  match cursor.rest with
  | ')' :: _ => true
  | ';' :: ';' :: _ => true
  | ';' :: '&' :: _ => cursor.isRich
  | _ => closers.contains (plainWord cursor)

def specialNames : List String :=
  [":", ".", "break", "continue", "eval", "exec", "exit", "export", "local", "readonly", "return",
    "set", "shift", "times", "trap", "unset"]

def assignedName (characters : List Char) : Option (List Char) :=
  let name := nameOf characters
  if name.isEmpty then none
  else if (characters.drop name.length).head? = some '=' then some name
  else none

/-- The beginning of an assignment: the name, whether a subscript follows it, and whether what is
assigned is put behind the old value. -/
structure AssignmentSign where
  name : List Char
  subscripted : Bool
  appends : Bool

def assignmentHere (variety : Variety) (characters : List Char) : Option AssignmentSign :=
  let name := nameOf characters
  let behind := characters.drop name.length
  if name.isEmpty then none
  else
    match variety, behind with
    | _, '=' :: _ => some ⟨name, false, false⟩
    | .rich, '+' :: '=' :: _ => some ⟨name, false, true⟩
    | .rich, '[' :: _ =>
      (subscriptLength 0 behind).bind fun length =>
        match behind.drop length with
        | '=' :: _ => some ⟨name, true, false⟩
        | '+' :: '=' :: _ => some ⟨name, true, true⟩
        | _ => none
    | _, _ => none

def declaringNames : List String := ["declare", "export", "local", "readonly", "typeset"]

def isNamed (names : List String) : Word → Bool
  | [.text characters false] => names.contains (String.ofList characters)
  | _ => false

def compoundNames : List String :=
  ["\x7b", "if", "while", "until", "for", "case", "select", "[[", "function"]

def isCompoundHere (cursor : Cursor) : Bool :=
  cursor.rest.head? = some '(' || compoundNames.contains (plainWord cursor)

def Statement.joined (line : Nat) : Statement → Statement
  | .simple line assignments words redirections =>
    .simple line assignments words
      (redirections ++ [.mk (.number 2) .duplicate [.text ['1'] false]])
  | other => .redirected other line [.mk (.number 2) .duplicate [.text ['1'] false]]

/-- What stands in front of a character of a word, and what stands behind it; the character does not
count in a text that is quoted otherwise than the word, nor within parentheses, nor where it belongs
to a question mark. The first character is passed over if `behind` is set. -/
def splitWord (mark : Char) (quoted behind : Bool) (word : Word) : Word × Option Word :=
  let rec inText : Nat → Bool → List Char → List Char × Option (List Char)
    | _, _, [] => ([], none)
    | depth, skips, character :: rest =>
      if character = mark && depth = 0 && !skips then ([], some rest)
      else
        let deeper := if mark ≠ ':' then 0
          else if character = '(' || character = '?' then depth + 1
          else if character = ')' || character = ':' then depth - 1 else depth
        let (taken, after) := inText deeper false rest
        (character :: taken, after)
  let rec go : Bool → Word → Word × Option Word
    | _, [] => ([], none)
    | skips, piece :: rest =>
      let (taken, after?) := match piece with
        | .text characters isQuoted =>
          if isQuoted = quoted then inText 0 skips characters else (characters, none)
        | _ => ([], none)
      match after? with
      | some after =>
        ([.text taken quoted], some (if after.isEmpty then rest else .text after quoted :: rest))
      | none =>
        let (pieces, after) := go false rest
        (piece :: pieces, after)
  go behind word

def unaryTests : List String :=
  ["-a", "-b", "-c", "-d", "-e", "-f", "-g", "-h", "-k", "-n", "-o", "-p", "-r", "-s", "-t", "-u",
    "-v", "-w", "-x", "-z", "-G", "-L", "-N", "-O", "-R", "-S"]

def binaryTests : List String :=
  ["=", "==", "!=", "=~", "-eq", "-ne", "-lt", "-le", "-gt", "-ge", "-nt", "-ot", "-ef"]

def binaryTestHere (cursor : Cursor) : Option String :=
  match cursor.rest with
  | '<' :: _ => some "<"
  | '>' :: _ => some ">"
  | _ => some (plainWord cursor) |>.filter binaryTests.contains

def opensGroup (character : Char) : Bool := ['?', '*', '+', '@', '!'].contains character

mutual

def readPieces : Nat → Surrounding → Cursor → Except Located (List Piece × Cursor)
  | 0, _, cursor => .ok ([], cursor)
  | bound + 1, surrounding, cursor =>
    let quoted := surrounding.isQuoted
    let plain (characters : List Char) (isQuoted : Bool) (after : Cursor) :
        Except Located (List Piece × Cursor) := do
      let (pieces, last) ← readPieces bound surrounding after
      .ok (consPiece (.text characters isQuoted) pieces, last)
    let beside (piece : Piece) (after : Cursor) : Except Located (List Piece × Cursor) := do
      let (pieces, last) ← readPieces bound surrounding after
      .ok (consPiece piece pieces, last)
    let free := cursor.isRich && !quoted
    match cursor.rest with
    | [] =>
      match surrounding with
      | .quotes => cursor.failUnmatched .unterminatedQuote '"'
      | .braces true => cursor.failUnmatched .unterminatedQuote '}'
      | .braces false => cursor.failUnmatched .missingBrace '}'
      | .brackets => cursor.fail (.unmatched ']')
      | .parentheses => cursor.fail (.unmatched ')')
      | _ => .ok ([], cursor)
    | '\\' :: '\n' :: _ => readPieces bound surrounding (cursor.drop 2)
    | '\\' :: [] => plain ['\\'] true cursor.advance
    | '\\' :: character :: _ =>
      if surrounding.escapes character then plain [character] true (cursor.drop 2)
      else plain ['\\'] quoted cursor.advance
    | '$' :: rest =>
      let behind := cursor.advance
      if free && rest.head? = some '\'' then
        match readEscaped (rest.drop 1) with
        | none => cursor.fail (.unmatched '\'')
        | some (inner, after) =>
          plain (Escaped.decode inner) true (cursor.drop (cursor.rest.length - after.length))
      else if free && rest.head? = some '"' then readPieces bound surrounding behind
      else do
        let (piece, after) ← readDollar bound quoted behind
        beside piece after
    | '`' :: rest =>
      match readBackquoted quoted rest with
      | none => cursor.failUnmatched .unterminatedOutput '`'
      | some (inner, after) => do
        let (body, _) ← readStatements bound false
          { cursor.fresh inner with line := cursor.line, firstLine := cursor.line }
        beside (.output body quoted) (cursor.drop (cursor.rest.length - after.length))
    | character :: rest =>
      let grouped := free && rest.head? = some '(' && surrounding = .word
        && cursor.grouping && opensGroup character
      let nested := ((surrounding = .parentheses || surrounding = .expression) && character = '(')
        || (surrounding = .brackets && character = '[')
      if grouped || nested then do
        let opening := if grouped then [character, '('] else [character]
        let (inner, after) ← readPieces bound
          (if character = '[' then .brackets else .parentheses) (cursor.drop opening.length)
        let (pieces, last) ← readPieces bound surrounding after.advance
        let closing := if character = '[' then ']' else ')'
        .ok (consPiece (.text opening false)
          (inner.foldr consPiece (consPiece (.text [closing] false) pieces)), last)
      else if free && surrounding = .word && (character = '<' || character = '>')
          && rest.head? = some '(' then do
        let (body, after) ← readEnclosed bound (cursor.drop 2)
        beside (.channel (character = '<') body) after
      else if surrounding.ends character then .ok ([], cursor)
      else if character = '\'' && !quoted then
        match readUntil '\'' rest with
        | none => cursor.failUnmatched .unterminatedQuote '\''
        | some (inner, after) =>
          plain inner true (cursor.drop (cursor.rest.length - after.length))
      else if character = '"' && surrounding ≠ .document then do
        let (inner, after) ← cursor.opened '"' (readPieces bound .quotes cursor.advance)
        let (pieces, last) ← readPieces bound surrounding after.advance
        let shown := if inner.isEmpty then [Piece.text [] true] else inner
        .ok (shown.foldr consPiece pieces, last)
      else plain [character] quoted cursor.advance

def readEnclosed : Nat → Cursor → Except Located (List Statement × Cursor)
  | 0, cursor => .ok ([], cursor)
  | bound + 1, cursor => do
    let (body, after) ← readStatements bound false cursor
    let here := after.skipBlanks
    if here.isRich && here.rest.isEmpty then here.failAtEnd (.unmatched ')')
    else
      let (_, last) ← expectSign bound ")" after
      .ok (body, last)

def readDollar : Nat → Bool → Cursor → Except Located (Piece × Cursor)
  | 0, quoted, cursor => .ok (.text ['$'] quoted, cursor)
  | bound + 1, quoted, cursor =>
    let output (inside : Cursor) : Except Located (Piece × Cursor) := do
      let (body, after) ← readEnclosed bound inside
      .ok (.output body quoted, after)
    match cursor.rest with
    | '(' :: '(' :: rest =>
      let number (inner after : List Char) : Except Located (Piece × Cursor) := do
        let (pieces, _) ← readPieces bound .document (cursor.fresh inner)
        .ok (.number pieces quoted, cursor.drop (cursor.rest.length - after.length))
      match cursor.variety with
      | .plain =>
        match readExpression 0 rest with
        | some (inner, after) => number inner after
        | none => cursor.failAtEnd .missingParentheses
      | .rich =>
        match readCalculation 0 rest with
        | some (inner, after) => number inner after
        | none => cursor.opened ')' (output cursor.advance)
    | '(' :: _ => output cursor.advance
    | '{' :: _ =>
      if cursor.isRich then cursor.opened '\x7d' (readRichBraces bound quoted cursor.advance)
      else readBraces bound quoted cursor.advance
    | character :: rest =>
      let name := nameOf (character :: rest)
      if !name.isEmpty then
        .ok (.parameter (.plain (String.ofList name)) .plain [] [] quoted, cursor.drop name.length)
      else if character.isDigit || isSpecial character then
        .ok (.parameter (.plain (String.singleton character)) .plain [] [] quoted, cursor.advance)
      else .ok (.text ['$'] quoted, cursor)
    | [] => .ok (.text ['$'] quoted, cursor)

def readBraces : Nat → Bool → Cursor → Except Located (Piece × Cursor)
  | 0, quoted, cursor => .ok (.parameter (.plain "") .improper [] [] quoted, cursor)
  | bound + 1, quoted, cursor =>
    let measured := match cursor.rest with
      | '#' :: next :: rest =>
        continuesName next || (next ≠ '}' && rest.head? = some '}')
      | _ => false
    let begun := if measured then cursor.advance else cursor
    let name := match begun.rest with
      | character :: _ =>
        if character.isDigit then begun.rest.takeWhile Char.isDigit
        else if isSpecial character then [character]
        else nameOf begun.rest
      | [] => []
    let after := begun.drop name.length
    let finishIn (surrounding : Surrounding) (treatment : Treatment) (from_ : Cursor) :
        Except Located (Piece × Cursor) := do
      let (word, last) ← readPieces bound surrounding from_
      .ok (.parameter (.plain (String.ofList name)) treatment word [] quoted, last.advance)
    let finish (treatment : Treatment) (length : Nat) : Except Located (Piece × Cursor) :=
      finishIn (.braces quoted) treatment (after.drop length)
    let trim (treatment : Treatment) (length : Nat) : Except Located (Piece × Cursor) :=
      finishIn (.braces false) treatment (after.drop length)
    let improper (length : Nat) : Except Located (Piece × Cursor) :=
      finishIn (.braces quoted) .improper { after with rest := after.rest.drop length }
    if name.isEmpty then improper (if after.rest.head? = some '}' then 0 else 1)
    else
      match measured, after.rest with
      | _, '}' :: _ =>
        .ok (.parameter (.plain (String.ofList name)) (if measured then .length else .plain) [] []
          quoted, after.advance)
      | true, _ => improper 0
      | false, ':' :: '-' :: _ => finish (.fallback true) 2
      | false, '-' :: _ => finish (.fallback false) 1
      | false, ':' :: '=' :: _ => finish (.assignment true) 2
      | false, '=' :: _ => finish (.assignment false) 1
      | false, ':' :: '+' :: _ => finish (.alternative true) 2
      | false, '+' :: _ => finish (.alternative false) 1
      | false, ':' :: '?' :: _ => finish (.demand true) 2
      | false, '?' :: _ => finish (.demand false) 1
      | false, ':' :: '}' :: _ => finish .plain 2
      | false, '#' :: '#' :: _ => trim (.trimStart true) 2
      | false, '#' :: _ => trim (.trimStart false) 1
      | false, '%' :: '%' :: _ => trim (.trimEnd true) 2
      | false, '%' :: _ => trim (.trimEnd false) 1
      | false, ':' :: _ => improper 2
      | false, _ => improper 1

def readRichBraces : Nat → Bool → Cursor → Except Located (Piece × Cursor)
  | 0, quoted, cursor => .ok (.parameter (.plain "") .improper [] [] quoted, cursor)
  | bound + 1, quoted, cursor => do
    let closes (characters : List Char) : Bool := characters.head? = some '}'
    let (measured, indirect) := match cursor.rest with
      | '#' :: next :: rest => (continuesName next || (next ≠ '}' && closes rest), false)
      | '!' :: next :: rest => (false, continuesName next || (next = '#' && closes rest))
      | _ => (false, false)
    let begun := if measured || indirect then cursor.advance else cursor
    let name := match begun.rest with
      | character :: _ =>
        if character.isDigit then begun.rest.takeWhile Char.isDigit
        else if isSpecial character then [character]
        else nameOf begun.rest
      | [] => []
    let behind := begun.drop name.length
    let isWord := (name.head?.map startsName).getD false
    let (selection, after) ← match isWord, behind.rest with
      | true, '[' :: '@' :: ']' :: _ => .ok (Selection.apart, behind.drop 3)
      | true, '[' :: '*' :: ']' :: _ => .ok (Selection.together, behind.drop 3)
      | true, '[' :: _ => do
        match subscriptLength 0 behind.rest with
        | none => .ok (Selection.whole, behind)
        | some _ => do
          let (subscript, last) ← readPieces bound .brackets behind.advance
          .ok (Selection.one subscript, last.advance)
      | _, _ => .ok (Selection.whole, behind)
    let target := Reference.mk (String.ofList name) indirect selection
    let finish (surrounding : Surrounding) (treatment : Treatment) (length : Nat) :
        Except Located (Piece × Cursor) := do
      let (word, last) ← readPieces bound surrounding (after.drop length)
      .ok (.parameter target treatment word [] quoted, last.advance)
    let value (treatment : Treatment) (length : Nat) : Except Located (Piece × Cursor) :=
      finish (.braces quoted) treatment length
    let pattern (treatment : Treatment) (length : Nat) : Except Located (Piece × Cursor) :=
      finish (.braces false) treatment length
    let replace (scope : Scope) (length : Nat) : Except Located (Piece × Cursor) := do
      let (word, last) ← readPieces bound (.braces false) (after.drop length)
      let (sought, instead) := splitWord '/' false (scope = .every) word
      .ok (.parameter target (.replacement scope) sought (instead.getD []) quoted, last.advance)
    let improperFrom (whole : Cursor) : Except Located (Piece × Cursor) := do
      let (_, last) ← readPieces bound (.braces quoted) whole
      let length := whole.rest.length - last.rest.length
      let text := "$\x7b" ++ String.ofList (whole.rest.take length) ++ "\x7d"
      .ok (.parameter (.plain text) .improper [] [] quoted, last.advance)
    if name.isEmpty then improperFrom cursor
    else
      match measured, after.rest with
      | true, '}' :: _ => .ok (.parameter target .length [] [] quoted, after.advance)
      | true, _ => improperFrom cursor
      | false, '}' :: _ =>
        let isAll := match selection with
          | .apart | .together => true
          | _ => false
        if indirect && isAll then
          .ok (.parameter (.mk (String.ofList name) false selection) .keys [] [] quoted,
            after.advance)
        else .ok (.parameter target .plain [] [] quoted, after.advance)
      | false, '@' :: '}' :: _ =>
        if indirect then
          .ok (.parameter (.mk (String.ofList name) false .apart) .names [] [] quoted, after.drop 2)
        else improperFrom cursor
      | false, '*' :: '}' :: _ =>
        if indirect then
          .ok (.parameter (.mk (String.ofList name) false .together) .names [] [] quoted,
            after.drop 2)
        else improperFrom cursor
      | false, '@' :: aspect :: '}' :: _ =>
        if "QEPAUuLKak".toList.contains aspect then
          .ok (.parameter target (.described aspect) [] [] quoted, after.drop 3)
        else improperFrom cursor
      | false, ':' :: '-' :: _ => value (.fallback true) 2
      | false, '-' :: _ => value (.fallback false) 1
      | false, ':' :: '=' :: _ => value (.assignment true) 2
      | false, '=' :: _ => value (.assignment false) 1
      | false, ':' :: '+' :: _ => value (.alternative true) 2
      | false, '+' :: _ => value (.alternative false) 1
      | false, ':' :: '?' :: _ => value (.demand true) 2
      | false, '?' :: _ => value (.demand false) 1
      | false, ':' :: '}' :: _ => improperFrom cursor
      | false, ':' :: _ => do
        let (word, last) ← readPieces bound (.braces quoted) (after.drop 1)
        let (offset, length) := splitWord ':' quoted false word
        .ok (.parameter target (.slice length.isSome) offset (length.getD []) quoted, last.advance)
      | false, '#' :: '#' :: _ => pattern (.trimStart true) 2
      | false, '#' :: _ => pattern (.trimStart false) 1
      | false, '%' :: '%' :: _ => pattern (.trimEnd true) 2
      | false, '%' :: _ => pattern (.trimEnd false) 1
      | false, '/' :: '/' :: _ => replace .every 2
      | false, '/' :: '#' :: _ => replace .beginning 2
      | false, '/' :: '%' :: _ => replace .ending 2
      | false, '/' :: _ => replace .first 1
      | false, '^' :: '^' :: _ => pattern (.recased .upper true) 2
      | false, '^' :: _ => pattern (.recased .upper false) 1
      | false, ',' :: ',' :: _ => pattern (.recased .lower true) 2
      | false, ',' :: _ => pattern (.recased .lower false) 1
      | false, '~' :: '~' :: _ => pattern (.recased .toggled true) 2
      | false, '~' :: _ => pattern (.recased .toggled false) 1
      | false, _ => improperFrom cursor

def readValue : Nat → Cursor → Except Located (Word × Cursor)
  | 0, cursor => .ok ([], cursor)
  | bound + 1, cursor =>
    match cursor.variety, cursor.rest with
    | .rich, '(' :: _ => do
      let (elements, after) ← match readElements bound cursor.advance with
        | .error ⟨.inList "", _, _⟩ => cursor.fail (.inList "")
        | result => result
      .ok ([.items elements], after)
    | _, _ => readPieces bound .word cursor

def readElements : Nat → Cursor → Except Located (List Element × Cursor)
  | 0, cursor => .ok ([], cursor)
  | bound + 1, cursor => do
    let here := cursor.skipLines
    match here.rest with
    | [] => here.fail (.inList "")
    | ')' :: _ => .ok ([], here.advance)
    | '[' :: _ =>
      let length := (subscriptLength 0 here.rest).getD 0
      match here.rest.drop length with
      | '=' :: _ | '+' :: '=' :: _ => do
        let (subscript, behind) ← readPieces bound .brackets here.advance
        let appends := behind.advance.rest.head? = some '+'
        let (value, after) ← readPieces bound .word (behind.drop (if appends then 3 else 2))
        let (others, last) ← readElements bound after
        .ok (.mk (some subscript) appends value :: others, last)
      | _ => readElement bound here
    | character :: _ =>
      if endsWord character && !here.isChannelHere then
        here.fail (.inList (tokenText here))
      else readElement bound here

def readElement : Nat → Cursor → Except Located (List Element × Cursor)
  | 0, cursor => .ok ([], cursor)
  | bound + 1, cursor => do
    let (word, after) ← readPieces bound .word cursor
    let (others, last) ← readElements bound after
    .ok ((Brace.words word).map (fun found => Element.mk none false found) ++ others, last)

def readRedirections : Nat → Cursor → Except Located (List Redirection × Cursor)
  | 0, cursor => .ok ([], cursor)
  | bound + 1, cursor =>
    let here := cursor.skipBlanks
    match redirectionHere here.variety here.rest with
    | none => .ok ([], cursor)
    | some found => do
      let (given, after) ← readRedirection bound found here
      let (others, last) ← readRedirections bound after
      .ok (given ++ others, last)

def readRedirection : Nat → RedirectionSign → Cursor → Except Located (List Redirection × Cursor)
  | 0, _, cursor => cursor.unexpected false none
  | bound + 1, ⟨handle, opening, length, joins⟩, cursor =>
    let behind := cursor.drop length
    let tabs := opening = .document && behind.rest.head? = some '-'
    let target := (if tabs then behind.advance else behind).skipBlanks
    let lacks := (target.rest.head?.map endsWord).getD true && !target.isChannelHere
    if lacks then target.unexpected false none
    else do
      let (word, after) ← readPieces bound .word target
      if opening = .document then
        let plain := isQuotedDelimiter word
        let (body, last) := takeDocument (delimiterText word).toList tabs (!plain) after
        if plain then
          .ok ([.mk handle .document [.text body true]], last)
        else
          let (pieces, _) ← readPieces bound .document (cursor.fresh body)
          .ok ([.mk handle .document pieces], last)
      else if joins then
        .ok ([.mk handle opening word,
          .mk (.number 2) .duplicate [.text ['1'] false]], after)
      else .ok ([.mk handle opening word], after)

def expectSign : Nat → String → Cursor → Except Located (Unit × Cursor)
  | 0, _, cursor => .ok ((), cursor)
  | _ + 1, awaited, cursor =>
    let here := cursor.skipBlanks
    if awaited.toList.isPrefixOf here.rest then .ok ((), here.drop awaited.length)
    else here.unexpected true (some (spelled awaited))

def expectWord : Nat → String → Cursor → Except Located (Unit × Cursor)
  | 0, _, cursor => .ok ((), cursor)
  | _ + 1, awaited, cursor =>
    let here := cursor.skipBlanks
    if plainWord here = awaited then .ok ((), here.drop awaited.length)
    else here.unexpected true (some (spelled awaited))

def readStatements : Nat → Bool → Cursor → Except Located (List Statement × Cursor)
  | 0, _, cursor => .ok ([], cursor)
  | bound + 1, needed, cursor =>
    let here := cursor.skipLines
    if here.rest.isEmpty then .ok ([], here)
    else if !needed && endsStatements here then .ok ([], here)
    else do
      let (statement, after) ← readLogic bound here
      let next := after.skipBlanks
      match next.rest with
      | ';' :: ';' :: _ => .ok ([statement], next)
      | '&' :: '&' :: _ => .ok ([statement], next)
      | ';' :: '&' :: _ =>
        if next.isRich then .ok ([statement], next) else next.advance.unexpected true none
      | ';' :: _ | '\n' :: _ => do
        let (others, last) ← readStatements bound false next.advance
        .ok (statement :: others, last)
      | '&' :: _ => do
        let (others, last) ← readStatements bound false next.advance
        .ok (.background statement :: others, last)
      | _ => .ok ([statement], next)

def readLogic : Nat → Cursor → Except Located (Statement × Cursor)
  | 0, cursor => cursor.unexpected true none
  | bound + 1, cursor => do
    let (first, after) ← readPipeline bound cursor
    readLogicRest bound first after

def readLogicRest : Nat → Statement → Cursor → Except Located (Statement × Cursor)
  | 0, first, cursor => .ok (first, cursor)
  | bound + 1, first, cursor =>
    let here := cursor.skipBlanks
    match here.rest with
    | '&' :: '&' :: _ => do
      let (second, after) ← readPipeline bound (here.drop 2).skipLines
      readLogicRest bound (.andThen first second) after
    | '|' :: '|' :: _ => do
      let (second, after) ← readPipeline bound (here.drop 2).skipLines
      readLogicRest bound (.orElse first second) after
    | _ => .ok (first, here)

def readPipeline : Nat → Cursor → Except Located (Statement × Cursor)
  | 0, cursor => cursor.unexpected true none
  | bound + 1, cursor => do
    let here := cursor.skipBlanks
    let negated := plainWord here = "!"
    let begin_ := if negated then here.advance.skipBlanks else here
    let ends := (begin_.rest.head?.map fun character =>
      ['\n', ';', ')'].contains character).getD true
    if here.isRich && plainWord here = "time" then
      let behind := (here.drop 4).skipBlanks
      let portable := plainWord behind = "-p"
      let next := if portable then (behind.drop 2).skipBlanks else behind
      let isAlone := (next.rest.head?.map fun character =>
        ['\n', ';', ')'].contains character).getD true
      if isAlone then .ok (.timed portable (.group []), next)
      else
        let (body, after) ← readPipeline bound next
        .ok (.timed portable body, after)
    else if here.isRich && negated && ends then .ok (.pipeline true [], begin_)
    else if here.isRich && negated && plainWord begin_ = "!" then
      let (body, after) ← readPipeline bound begin_
      .ok (.pipeline true [body], after)
    else
      let (stages, after) ← readStages bound begin_
      match stages with
      | [stage] => .ok (if negated then .pipeline true [stage] else stage, after)
      | _ => .ok (.pipeline negated stages, after)

def readStages : Nat → Cursor → Except Located (List Statement × Cursor)
  | 0, cursor => cursor.unexpected true none
  | bound + 1, cursor => do
    let (stage, after) ← readCommand bound cursor
    let here := after.skipBlanks
    match here.rest with
    | '|' :: '|' :: _ => .ok ([stage], here)
    | '|' :: rest =>
      let joins := here.isRich && rest.head? = some '&'
      let (others, last) ← readStages bound (here.drop (if joins then 2 else 1)).skipLines
      .ok ((if joins then stage.joined here.line else stage) :: others, last)
    | _ => .ok ([stage], here)

/-- Reads a command with the redirections that follow a compound one. A word that is another name
for a command is replaced by what it stands for, once. -/
def readCommand : Nat → Cursor → Except Located (Statement × Cursor)
  | 0, cursor => cursor.unexpected true none
  | bound + 1, cursor =>
    let word := plainWord cursor
    let redirected (reading : Except Located (Statement × Cursor)) :
        Except Located (Statement × Cursor) := do
      let (statement, after) ← reading
      let (redirections, last) ← readRedirections bound after
      if redirections.isEmpty then .ok (statement, after)
      else .ok (.redirected statement cursor.line redirections, last)
    let subshell (inside : Cursor) : Except Located (Statement × Cursor) := redirected do
      let (body, after) ← readStatements bound true inside
      let (_, last) ← expectSign bound ")" after
      .ok (.subshell body, last)
    match cursor.rest, word with
    | '(' :: '(' :: rest, _ =>
      match (if cursor.isRich then readCalculation 0 rest else none) with
      | some (inner, after) => redirected do
        let (pieces, _) ← readPieces bound .document (cursor.fresh inner)
        .ok (.calculation cursor.line pieces, cursor.drop (cursor.rest.length - after.length))
      | none =>
        if cursor.isRich && !isClosed 0 rest then cursor.fail (.unmatched ')')
        else subshell cursor.advance
    | '(' :: _, _ => subshell cursor.advance
    | _, "\x7b" => redirected (readGroup bound cursor.advance)
    | _, "if" => redirected (readBranch bound (cursor.drop 2))
    | _, "while" => redirected (readLoop bound true (cursor.drop 5))
    | _, "until" => redirected (readLoop bound false (cursor.drop 5))
    | _, "for" => redirected (readEach bound cursor.line false (cursor.drop 3).skipBlanks)
    | _, "case" => redirected (readChoice bound cursor.line (cursor.drop 4).skipBlanks)
    | _, _ =>
      let rich := cursor.isRich
      if rich && word = "select" then
        redirected (readEach bound cursor.line true (cursor.drop 6).skipBlanks)
      else if rich && word = "[[" then redirected do
        let (test, after) ← readTest bound (cursor.drop 2)
        .ok (.test cursor.line test, after)
      else if rich && word = "function" then readNamedFunction bound (cursor.drop 8).skipBlanks
      else if (reservedWords cursor.variety).contains word && word ≠ "in" && word ≠ "]]"
          && word ≠ "coproc" then
        cursor.unexpected true none
      else
        match cursor.aliases.lookup word with
        | some text => do
          let aliases := cursor.aliases.filter fun (name, _) => name ≠ word
          let replaced := { cursor with
            rest := text.toList ++ cursor.rest.drop word.length, aliases }
          let (statement, after) ← readCommand bound replaced.skipBlanks
          .ok (statement, { after with aliases := cursor.aliases })
        | none => readSimple bound cursor.line [] [] [] cursor

def readGroup : Nat → Cursor → Except Located (Statement × Cursor)
  | 0, cursor => cursor.unexpected true none
  | bound + 1, cursor => do
    let (body, after) ← readStatements bound true cursor
    let (_, last) ← expectWord bound "\x7d" after
    .ok (.group body, last)

def readBranch : Nat → Cursor → Except Located (Statement × Cursor)
  | 0, cursor => cursor.unexpected true none
  | bound + 1, cursor => do
    let (condition, after) ← readStatements bound true cursor
    let (_, begun) ← expectWord bound "then" after
    let (body, next) ← readStatements bound true begun
    match plainWord next with
    | "elif" =>
      let (other, last) ← readBranch bound (next.drop 4)
      .ok (.branch condition body [other], last)
    | "else" =>
      let (otherwise, ended) ← readStatements bound true (next.drop 4)
      let (_, last) ← expectWord bound "fi" ended
      .ok (.branch condition body otherwise, last)
    | _ =>
      let (_, last) ← expectWord bound "fi" next
      .ok (.branch condition body [], last)

def readBody : Nat → Bool → Cursor → Except Located (List Statement × Cursor)
  | 0, _, cursor => cursor.unexpected true none
  | bound + 1, takesBraces, cursor => do
    let inBraces := takesBraces && cursor.isRich && plainWord cursor.skipBlanks = "\x7b"
    let (_, begun) ← expectWord bound (if inBraces then "\x7b" else "do") cursor
    let (body, ended) ← readStatements bound true begun
    let (_, last) ← expectWord bound (if inBraces then "\x7d" else "done") ended
    .ok (body, last)

def readLoop : Nat → Bool → Cursor → Except Located (Statement × Cursor)
  | 0, _, cursor => cursor.unexpected true none
  | bound + 1, awaited, cursor => do
    let (condition, after) ← readStatements bound true cursor
    let (body, last) ← readBody bound false after
    .ok (.loop awaited condition body, last)

def readEach : Nat → Nat → Bool → Cursor → Except Located (Statement × Cursor)
  | 0, _, _, cursor => cursor.unexpected true none
  | bound + 1, line, chosen, cursor =>
    let name := nameOf cursor.rest
    let word := plainWord cursor
    let made (words : Option (List Word)) (body : List Statement) : Statement :=
      if chosen then .menu line word words body else .each line word words body
    if cursor.isRich && !chosen && cursor.rest.take 2 = ['(', '('] then
      readCounted bound line cursor
    else if cursor.isRich && word = "" then cursor.unexpected false none
    else if !cursor.isRich && (name.isEmpty || String.ofList name ≠ word) then
      cursor.fail .badVariable
    else do
      let after := (cursor.drop word.length).skipLines
      if plainWord after = "in" then
        let (words, ended) ← readWordList bound (after.drop 2)
        let separated := ended.skipBlanks
        match separated.rest with
        | ';' :: ';' :: _ => separated.unexpected false none
        | ';' :: _ | '\n' :: _ =>
          let (body, last) ← readBody bound true separated.advance.skipLines
          .ok (made (some words) body, last)
        | _ => separated.unexpected false none
      else
        let next := match after.rest with
          | ';' :: ';' :: _ => after
          | ';' :: _ => after.advance.skipLines
          | _ => after
        let (body, last) ← readBody bound true next
        .ok (made none body, last)

def readCounted : Nat → Nat → Cursor → Except Located (Statement × Cursor)
  | 0, _, cursor => cursor.unexpected true none
  | bound + 1, line, cursor =>
    match readCalculation 0 (cursor.rest.drop 2) with
    | none => cursor.fail (.unmatched ')')
    | some (inner, after) =>
      match Text.splitAt ';' inner with
      | [start, check, step] => do
        let expression (characters : List Char) : Except Located Word := do
          let (pieces, _) ← readPieces bound .document (cursor.fresh characters)
          .ok pieces
        let behind := (cursor.drop (cursor.rest.length - after.length)).skipBlanks
        let next := match behind.rest with
          | ';' :: ';' :: _ => behind
          | ';' :: _ => behind.advance.skipLines
          | _ => behind.skipLines
        let (body, last) ← readBody bound true next
        .ok (.counted line (← expression start) (← expression check) (← expression step) body,
          last)
      | _ => cursor.fail (.uncounted ("((" ++ String.ofList inner ++ "))"))

def readWordList : Nat → Cursor → Except Located (List Word × Cursor)
  | 0, cursor => .ok ([], cursor)
  | bound + 1, cursor =>
    let here := cursor.skipBlanks
    if !here.isChannelHere && ((here.rest.head?.map endsWord).getD true
        || (redirectionHere here.variety here.rest).isSome) then
      .ok ([], here)
    else do
      let (word, after) ← readPieces bound .word here
      let (others, last) ← readWordList bound after
      .ok ((if here.isRich then Brace.words word else [word]) ++ others, last)

def readChoice : Nat → Nat → Cursor → Except Located (Statement × Cursor)
  | 0, _, cursor => cursor.unexpected true none
  | bound + 1, line, cursor =>
    if (cursor.rest.head?.map endsWord).getD true then cursor.unexpected false (some "word")
    else do
      let (word, after) ← readPieces bound .word cursor
      let (_, begun) ← expectWord bound "in" after.skipLines
      let (arms, ended) ← readArms bound begun.skipLines
      let (_, last) ← expectWord bound "esac" ended
      .ok (.choice line word arms, last)

def readArms : Nat → Cursor → Except Located (List Arm × Cursor)
  | 0, cursor => .ok ([], cursor)
  | bound + 1, cursor =>
    if plainWord cursor = "esac" then .ok ([], cursor)
    else do
      let begun := match cursor.rest with
        | '(' :: _ => cursor.advance
        | _ => cursor
      let (patterns, after) ← readPatterns bound begun
      let (body, ended) ← readStatements bound false after
      let continued (ending : ArmEnd) (next : Cursor) : Except Located (List Arm × Cursor) := do
        let (others, last) ← readArms bound next.skipLines
        .ok (.mk patterns body ending :: others, last)
      if plainWord ended = "esac" then .ok ([.mk patterns body .stops], ended)
      else
        match ended.isRich, ended.rest with
        | true, ';' :: ';' :: '&' :: _ => continued .searches (ended.drop 3)
        | true, ';' :: '&' :: _ => continued .falls (ended.drop 2)
        | _, _ =>
          let (_, next) ← expectSign bound ";;" ended
          continued .stops next

def readPatterns : Nat → Cursor → Except Located (List Word × Cursor)
  | 0, cursor => cursor.unexpected true none
  | bound + 1, cursor =>
    let begun := cursor.skipBlanks
    if (begun.rest.head?.map endsWord).getD true then begun.unexpected true (some (spelled ")"))
    else do
      let (word, after) ← readPieces bound .word begun
      let here := after.skipBlanks
      match here.rest with
      | '|' :: '|' :: _ => here.unexpected true (some (spelled ")"))
      | '|' :: _ =>
        let (others, last) ← readPatterns bound here.advance
        .ok (word :: others, last)
      | ')' :: _ => .ok ([word], here.advance)
      | _ => here.unexpected false (some (spelled ")"))

def readFunction : Nat → Word → Cursor → Except Located (Statement × Cursor)
  | 0, _, cursor => cursor.unexpected true none
  | bound + 1, word, cursor => do
    let here := cursor.advance.skipBlanks
    match here.rest, word with
    | ')' :: _, word =>
      if here.isRich then readFunctionBody bound (delimiterText word) here.advance
      else
        match word with
        | [.text name false] =>
          if nameOf name = name && !name.isEmpty && !specialNames.contains (String.ofList name) then
            let (body, last) ← readCommand bound here.advance.skipLines
            .ok (.define (String.ofList name) body, last)
          else here.advance.fail .badFunction
        | _ => here.advance.fail .badFunction
    | _, _ => here.unexpected false (some (spelled ")"))

def readNamedFunction : Nat → Cursor → Except Located (Statement × Cursor)
  | 0, cursor => cursor.unexpected true none
  | bound + 1, cursor =>
    let name := plainWord cursor
    if name = "" then cursor.unexpected false none
    else
      let behind := (cursor.drop name.length).skipBlanks
      let here := match behind.rest with
        | '(' :: _ =>
          let inner := behind.advance.skipBlanks
          if inner.rest.head? = some ')' then inner.advance else behind
        | _ => behind
      readFunctionBody bound name here

def readFunctionBody : Nat → String → Cursor → Except Located (Statement × Cursor)
  | 0, _, cursor => cursor.unexpected true none
  | bound + 1, name, cursor =>
    let here := cursor.skipLines
    if isCompoundHere here then do
      let (body, last) ← readCommand bound here
      .ok (.define name body, last)
    else here.unexpected true none

def readTest : Nat → Cursor → Except Located (Test × Cursor)
  | 0, cursor => cursor.unexpected true none
  | bound + 1, cursor => do
    let (test, after) ← readEitherTest bound cursor
    let here := after.skipLines
    if plainWord here = "]]" then .ok (test, here.drop 2)
    else if here.rest.isEmpty then
      here.failAtEnd (.inCondition "unexpected token `EOF' in conditional command" "")
    else here.fail (.inCondition "syntax error in conditional expression" (tokenText here))

def readEitherTest : Nat → Cursor → Except Located (Test × Cursor)
  | 0, cursor => cursor.unexpected true none
  | bound + 1, cursor => do
    let (first, after) ← readBothTest bound cursor
    let here := after.skipLines
    match here.rest with
    | '|' :: '|' :: _ =>
      let (second, last) ← readEitherTest bound (here.drop 2)
      .ok (.either first second, last)
    | _ => .ok (first, after)

def readBothTest : Nat → Cursor → Except Located (Test × Cursor)
  | 0, cursor => cursor.unexpected true none
  | bound + 1, cursor => do
    let (first, after) ← readSingleTest bound cursor
    let here := after.skipLines
    match here.rest with
    | '&' :: '&' :: _ =>
      let (second, last) ← readBothTest bound (here.drop 2)
      .ok (.both first second, last)
    | _ => .ok (first, after)

def readSingleTest : Nat → Cursor → Except Located (Test × Cursor)
  | 0, cursor => cursor.unexpected true none
  | bound + 1, cursor => do
    let here := cursor.skipLines
    let word := plainWord here
    let fail {α : Type} (place : Cursor) (reason : String) : Except Located α :=
      place.fail (.inCondition reason (tokenText place))
    let lacks (place : Cursor) : Bool :=
      (place.rest.head?.map endsWord).getD true || plainWord place = "]]"
    match here.rest with
    | [] => here.failAtEnd (.inCondition "unexpected token `EOF' in conditional command" "")
    | '(' :: _ => do
      let (inner, after) ← readEitherTest bound here.advance
      let next := after.skipLines
      match next.rest with
      | ')' :: _ => .ok (inner, next.advance)
      | _ => fail next ("unexpected token `" ++ tokenText next ++ "', expected `)'")
    | _ =>
      if word = "!" then do
        let (inner, after) ← readSingleTest bound here.advance
        .ok (.negated inner, after)
      else if unaryTests.contains word then do
        let operand := (here.drop word.length).skipBlanks
        if lacks operand then
          fail operand ("unexpected argument `" ++ tokenText operand
            ++ "' to conditional unary operator")
        let (pieces, after) ← readPieces bound .word operand
        .ok (.unary word pieces, after)
      else if (here.rest.head?.map endsWord).getD true then
        fail here ("unexpected token `" ++ tokenText here ++ "' in conditional command")
      else if word = "]]" then
        fail here ("syntax error near `]]'")
      else do
        let (left, after) ← readPieces bound .word here
        let next := after.skipBlanks
        match binaryTestHere next with
        | some operator => do
          let operand := (next.drop operator.length).skipBlanks
          if (operand.rest.head?.map endsWord).getD true && operand.rest.head? ≠ some '('
              || plainWord operand = "]]" then
            fail operand ("unexpected argument `" ++ tokenText operand
              ++ "' to conditional binary operator")
          let (right, last) ←
            if operator = "=~" then readPieces bound .expression operand
            else do
              let (pieces, last) ← readPieces bound .word { operand with grouping := true }
              .ok (pieces, { last with grouping := operand.grouping })
          .ok (.binary operator left right, last)
        | none =>
          match next.rest with
          | '&' :: '&' :: _ | '|' :: '|' :: _ | ')' :: _ => .ok (.word left, next)
          | [] => here.failAtEnd (.inCondition "unexpected token `EOF' in conditional command" "")
          | character :: _ =>
            if plainWord next = "]]" then .ok (.word left, next)
            else if endsWord character then
              fail next ("unexpected token `" ++ tokenText next
                ++ "', conditional binary operator expected")
            else fail next "conditional binary operator expected"

/-- Reads assignments, words and redirections, which end with the command. The rich shell counts the
line that the second of them ends in as the line of the command. -/
def readSimple : Nat → Nat → List Assignment → List Word → List Redirection → Cursor →
    Except Located (Statement × Cursor)
  | 0, line, assignments, words, redirections, cursor =>
    .ok (.simple line assignments words redirections, cursor)
  | bound + 1, line, assignments, words, redirections, cursor =>
    let here := cursor.skipBlanks
    let counted (after : Cursor) : Nat :=
      if here.isRich && assignments.length + words.length + redirections.length ≤ 1 then after.line
      else line
    match redirectionHere here.variety here.rest with
    | some found => do
      let (given, after) ← readRedirection bound found here
      readSimple bound (counted after) assignments words (redirections ++ given) after
    | none =>
      if (here.rest.head?.map endsWord).getD true && !here.isChannelHere then
        match here.rest, assignments, words, redirections with
        | _, [], [], [] => here.unexpected true none
        | '(' :: _, [], [word], [] => readFunction bound word here
        | _, _, _, _ => .ok (.simple line assignments words redirections, here)
      else
        let declares := here.isRich && (words.head?.map (isNamed declaringNames)).getD false
        match words.isEmpty, declares, assignmentHere here.variety here.rest with
        | true, _, some sign => do
          let behind := here.drop sign.name.length
          let (subscript, ended) ←
            if sign.subscripted then do
              let (pieces, last) ← readPieces bound .brackets behind.advance
              .ok (some pieces, last.advance)
            else .ok (none, behind)
          let (value, after) ← readValue bound (ended.drop (if sign.appends then 2 else 1))
          readSimple bound (counted after)
            (assignments ++ [.mk (String.ofList sign.name) subscript sign.appends value]) words
            redirections after
        | _, true, some sign => do
          let length := sign.name.length + (if sign.appends then 2 else 1)
          let behind := here.drop length
          if !sign.subscripted && behind.rest.head? = some '(' then do
            let (value, after) ← readValue bound behind
            let word := Piece.text (here.rest.take length) false :: value
            readSimple bound (counted after) assignments (words ++ [word]) redirections after
          else do
            let (word, after) ← readPieces bound .word here
            readSimple bound (counted after) assignments (words ++ [word]) redirections after
        | _, _, _ => do
          let (word, after) ← readPieces bound .word here
          let found := if here.isRich then Brace.words word else [word]
          readSimple bound (counted after) assignments (words ++ found) redirections after

end

def boundOf (cursor : Cursor) : Nat := 8 * cursor.rest.length + 64

def documentWord (variety : Variety) (characters : List Char) : Except Located Word := do
  let cursor := Cursor.start variety characters
  let (pieces, _) ← readPieces (boundOf cursor) .document cursor
  .ok pieces

def readLine : Nat → Cursor → Except Located (List Statement × Cursor)
  | 0, cursor => .ok ([], cursor)
  | bound + 1, cursor => do
    let (statement, after) ← readLogic (boundOf cursor) cursor
    let next := after.skipBlanks
    let continued (first : Statement) : Except Located (List Statement × Cursor) :=
      let beyond := next.advance.skipBlanks
      match beyond.rest with
      | [] => .ok ([first], beyond)
      | '\n' :: _ => .ok ([first], beyond.advance)
      | _ => do
        let (others, last) ← readLine bound beyond
        .ok (first :: others, last)
    match next.rest with
    | [] => .ok ([statement], next)
    | '\n' :: _ => .ok ([statement], next.advance)
    | ';' :: ';' :: _ => next.unexpected true none
    | ';' :: _ => continued statement
    | '&' :: _ => continued (.background statement)
    | _ => next.unexpected true none

def nextLine (cursor : Cursor) : Except Located (Option (List Statement × Cursor)) :=
  let here := cursor.skipLines
  if here.rest.isEmpty then .ok none
  else (readLine (here.rest.length + 1) here).map some

end ChartManifests.Shell
