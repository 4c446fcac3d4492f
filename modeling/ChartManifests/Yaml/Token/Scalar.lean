import ChartManifests.Yaml.Token.Block
/-!
Scalars. Between single quotes a quote is written twice; between double quotes a backslash begins an
escape. Plain scalars are words without quotes, and what ends them depends on whether they stand
inside of flow brackets. A line break inside of any of them is folded into a space.
-/

namespace ChartManifests.Yaml

def isQuotable (character : Char) : Bool :=
  !(isGap character || character = '\'' || character = '"' || character = '\\')

def escaped? : Char → Option Char
  | '0' => some '\x00'
  | 'a' => some '\x07'
  | 'b' => some '\x08'
  | 't' | '\t' => some '\t'
  | 'n' => some '\n'
  | 'v' => some '\x0b'
  | 'f' => some '\x0c'
  | 'r' => some '\r'
  | 'e' => some '\x1b'
  | ' ' => some ' '
  | '"' => some '"'
  | '\\' => some '\\'
  | '/' => some '/'
  | 'N' => some '\u0085'
  | '_' => some '\u00a0'
  | 'L' => some '\u2028'
  | 'P' => some '\u2029'
  | _ => none

def escapeWidth? : Char → Option Nat
  | 'x' => some 2
  | 'u' => some 4
  | 'U' => some 8
  | _ => none

/-- Line breaks inside a quoted scalar, with the spaces in front of the next line. A document
marker must not stand there. -/
def scanQuotedBreaks : Nat → Cursor → Except Fault (List Char × Cursor)
  | 0, cursor => .ok ([], cursor)
  | fuel + 1, cursor =>
    if cursor.seesAnyMarker then .error .malformed
    else
      let start := cursor.skip isSpaceOrTab
      if isBreak start.peek then do
        let (lineBreak, after) := start.lineBreak
        let (breaks, last) ← scanQuotedBreaks fuel after
        .ok (lineBreak ++ breaks, last)
      else .ok ([], start)

def scanEscape (cursor : Cursor) : Except Fault (Text × Cursor) :=
  match escaped? cursor.peek, escapeWidth? cursor.peek with
  | some character, _ => .ok ([CodePoint.ofChar character], cursor.next)
  | none, some width =>
    let digits := cursor.next.rest.take width
    if digits.length = width ∧ digits.all isHexDigit then
      let code := hexValue digits
      match CodePoint.ofNumber? code with
      | some point => .ok ([point], cursor.next.forward width)
      | none => .error (.escape code)
    else .error .malformed
  | none, none =>
    if isBreak cursor.peek then do
      let start := cursor.lineBreak.2
      let (breaks, after) ← scanQuotedBreaks (start.rest.length + 1) start
      .ok (Text.ofChars breaks, after)
    else .error .malformed

def scanQuotedSpaces (cursor : Cursor) : Except Fault (List Char × Cursor) :=
  let (spaces, after) := cursor.take isSpaceOrTab
  if after.peek = endOfStream then .error .malformed
  else if isBreak after.peek then do
    let (lineBreak, afterBreak) := after.lineBreak
    let (breaks, last) ← scanQuotedBreaks (afterBreak.rest.length + 1) afterBreak
    let folded :=
      if lineBreak ≠ ['\n'] then lineBreak else if breaks.isEmpty then [' '] else []
    .ok (folded ++ breaks, last)
  else .ok (spaces, after)

def scanQuotedText (double : Bool) : Nat → Cursor → Except Fault (Text × Cursor)
  | 0, _ => .error .malformed
  | fuel + 1, cursor => do
    let quote := if double then '"' else '\''
    let character := cursor.peek
    if !double && character = quote && cursor.peek 1 = quote then
      let (rest, last) ← scanQuotedText double fuel (cursor.forward 2)
      .ok (CodePoint.ofChar quote :: rest, last)
    else if character = quote then .ok ([], cursor.next)
    else
      let (part, after) ←
        if double && character = '\\' then scanEscape cursor.next
        else do
          let (characters, after) ←
            if isQuotable character then .ok (cursor.take isQuotable)
            else if character = '\'' || character = '"' || character = '\\' then
              .ok ([character], cursor.next)
            else scanQuotedSpaces cursor
          .ok (Text.ofChars characters, after)
      let (rest, last) ← scanQuotedText double fuel after
      .ok (part ++ rest, last)

def scanQuotedScalar (cursor : Cursor) : Except Fault (Token × Cursor) := do
  let (text, after) ← scanQuotedText (cursor.peek = '"') (cursor.rest.length + 1) cursor.next
  .ok (.scalar text false, after)

def isFlowIndicator (character : Char) : Bool := [',', '[', ']', '{', '}'].contains character

/-- The characters up to the first one that ends a word: a gap, a colon in front of a gap, and
inside of flow brackets also an indicator or a question mark. -/
def plainWord (inFlow : Bool) : List Char → List Char
  | [] => []
  | character :: rest =>
    let next := rest.headD endOfStream
    let ends := isGap character
      || (character = ':' && (isGap next || (inFlow && isFlowIndicator next)))
      || (inFlow && (isFlowIndicator character || character = '?'))
    if ends then [] else character :: plainWord inFlow rest

/-- What separates two words of a plain scalar; no text if the scalar ends there. `newLine` tells
whether a line break was passed. -/
structure PlainGap where
  text : List Char
  newLine : Bool
  after : Cursor

def scanPlainBreaks : Nat → Cursor → Option (List Char) × Cursor
  | 0, cursor => (some [], cursor)
  | fuel + 1, cursor =>
    if cursor.seesAnyMarker then (none, cursor)
    else
      let start := cursor.skipSpaces
      if isBreak start.peek then
        let (lineBreak, after) := start.lineBreak
        let (breaks, last) := scanPlainBreaks fuel after
        (breaks.map (lineBreak ++ ·), last)
      else (some [], start)

def scanPlainGap (cursor : Cursor) : PlainGap :=
  let (spaces, after) := cursor.take (· = ' ')
  if isBreak after.peek then
    let (lineBreak, afterBreak) := after.lineBreak
    match scanPlainBreaks (afterBreak.rest.length + 1) afterBreak with
    | (none, last) => ⟨[], true, last⟩
    | (some breaks, last) =>
      let folded :=
        if lineBreak ≠ ['\n'] then lineBreak else if breaks.isEmpty then [' '] else []
      ⟨folded ++ breaks, true, last⟩
  else ⟨spaces, false, after⟩

structure PlainScalar where
  text : List Char
  newLine : Bool
  after : Cursor

def scanPlainWords (inFlow : Bool) (least : Nat) : Nat → PlainGap → PlainScalar
  | 0, gap => ⟨[], gap.newLine, gap.after⟩
  | fuel + 1, gap =>
    let word := if gap.after.peek = '#' then [] else plainWord inFlow gap.after.rest
    if word.isEmpty then ⟨[], gap.newLine, gap.after⟩
    else
      let next := scanPlainGap (gap.after.forward word.length)
      if next.text.isEmpty || next.after.peek = '#' || (!inFlow && next.after.column < least) then
        ⟨gap.text ++ word, next.newLine, next.after⟩
      else
        let rest := scanPlainWords inFlow least fuel next
        ⟨gap.text ++ word ++ rest.text, rest.newLine, rest.after⟩

def scanPlainScalar (inFlow : Bool) (least : Nat) (cursor : Cursor) : PlainScalar :=
  scanPlainWords inFlow least (cursor.rest.length + 1) ⟨[], false, cursor⟩

/-- Whether a plain scalar is ahead: no indicator, or a dash, and outside of flow brackets a
question mark or a colon, in front of no gap. -/
def seesPlain (inFlow : Bool) (cursor : Cursor) : Bool :=
  let character := cursor.peek
  let indicators := ['-', '?', ':', ',', '[', ']', '{', '}', '#', '&', '*', '!', '|', '>', '\'',
    '"', '%', '@', '`']
  !(isGap character || indicators.contains character)
    || (!isGap (cursor.peek 1)
      && (character = '-' || (!inFlow && (character = '?' || character = ':'))))

end ChartManifests.Yaml
