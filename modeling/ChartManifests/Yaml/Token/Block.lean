import ChartManifests.Yaml.Token
/-!
Block scalars: a header, then lines that are indented alike. A literal scalar keeps its line
breaks; a folded one joins lines that do not start with a space.
-/

namespace ChartManifests.Yaml

inductive Chomping
  | clip
  | keep
  | strip
deriving DecidableEq, Repr

/-- What the header of a block scalar says. Without an indentation of its own the scalar is
indented like its first line that is not empty. -/
structure BlockHeader where
  chomping : Chomping
  indentation : Option Nat
deriving Repr

/-- Lines of a block scalar: their text, the break of the last of them, the empty lines that
follow it, and the position after those. -/
structure BlockLines where
  text : List Char
  lastBreak : List Char
  emptyLines : List Char
  after : Cursor

def chomping? (character : Char) : Option Chomping :=
  if character = '+' then some .keep else if character = '-' then some .strip else none

def scanIndentation (cursor : Cursor) : Except Fault (Option Nat × Cursor) :=
  let digit := cursor.peek
  if '0' ≤ digit ∧ digit ≤ '9' then
    if digit = '0' then .error .malformed else .ok (some (decimalValue [digit]), cursor.next)
  else .ok (none, cursor)

def scanBlockHeader (cursor : Cursor) : Except Fault (BlockHeader × Cursor) := do
  let (header, after) ←
    match chomping? cursor.peek with
    | some chomping => do
      let (indentation, after) ← scanIndentation cursor.next
      .ok (BlockHeader.mk chomping indentation, after)
    | none => do
      let (indentation, after) ← scanIndentation cursor
      match indentation.bind fun _ => chomping? after.peek with
      | some chomping => .ok (BlockHeader.mk chomping indentation, after.next)
      | none => .ok (BlockHeader.mk .clip indentation, after)
  expect after isSpaceOrEnd
  .ok (header, ← after.emptyRest)

def scanLeadingLines : Nat → Nat → Cursor → List Char × Nat × Cursor
  | 0, widest, cursor => ([], widest, cursor)
  | fuel + 1, widest, cursor =>
    if cursor.peek = ' ' then
      let after := cursor.next
      scanLeadingLines fuel (max widest after.column) after
    else if isBreak cursor.peek then
      let (lineBreak, after) := cursor.lineBreak
      let (breaks, last) := scanLeadingLines fuel widest after
      (lineBreak ++ breaks, last)
    else ([], widest, cursor)

def skipIndentation (indentation : Nat) (cursor : Cursor) : Cursor :=
  let spaces := (cursor.rest.takeWhile (· = ' ')).length
  cursor.forward (min spaces (indentation - cursor.column))

def scanEmptyLines (indentation : Nat) : Nat → Cursor → List Char × Cursor
  | 0, cursor => ([], cursor)
  | fuel + 1, cursor =>
    let start := skipIndentation indentation cursor
    if isBreak start.peek then
      let (lineBreak, after) := start.lineBreak
      let (breaks, last) := scanEmptyLines indentation fuel after
      (lineBreak ++ breaks, last)
    else ([], start)

def seesBlockLine (indentation : Nat) (cursor : Cursor) : Bool :=
  cursor.column = indentation && cursor.peek ≠ endOfStream

def isSpaceOrTab (character : Char) : Bool := character = ' ' || character = '\t'

/-- What joins two lines of a block scalar: a folded line feed becomes a space, and nothing if
empty lines follow it. Lines that start with a space are not folded. -/
def joint (folded : Bool) (line next : Char) (lineBreak emptyLines : List Char) : List Char :=
  if folded ∧ lineBreak = ['\n'] ∧ ¬ isSpaceOrTab line ∧ ¬ isSpaceOrTab next then
    if emptyLines.isEmpty then [' '] else []
  else lineBreak

def scanBlockLines (folded : Bool) (indentation : Nat) : Nat → List Char → Cursor → BlockLines
  | 0, emptyLines, cursor => ⟨[], [], emptyLines, cursor⟩
  | fuel + 1, emptyLines, cursor =>
    if seesBlockLine indentation cursor then
      let (line, afterLine) := cursor.take (!isBreak ·)
      let (lineBreak, afterBreak) := afterLine.lineBreak
      let (nextEmpty, next) := scanEmptyLines indentation (afterBreak.rest.length + 1) afterBreak
      let text := emptyLines ++ line
      if seesBlockLine indentation next then
        let rest := scanBlockLines folded indentation fuel nextEmpty next
        let between := joint folded cursor.peek next.peek lineBreak nextEmpty
        ⟨text ++ between ++ rest.text, rest.lastBreak, rest.emptyLines, rest.after⟩
      else ⟨text, lineBreak, nextEmpty, next⟩
    else ⟨[], [], emptyLines, cursor⟩

def scanBlockScalar (folded : Bool) (least : Nat) (cursor : Cursor) :
    Except Fault (Token × Cursor) := do
  let (header, start) ← scanBlockHeader cursor.next
  let fuel := start.rest.length + 1
  let minimum := max least 1
  let (indentation, emptyLines, first) := match header.indentation with
    | some indentation =>
      let column := minimum + indentation - 1
      (column, scanEmptyLines column fuel start)
    | none =>
      let (breaks, widest, first) := scanLeadingLines fuel 0 start
      (max minimum widest, breaks, first)
  let lines := scanBlockLines folded indentation fuel emptyLines first
  let ending := match header.chomping with
    | .clip => lines.lastBreak
    | .keep => lines.lastBreak ++ lines.emptyLines
    | .strip => []
  .ok (.scalar (Text.ofChars (lines.text ++ ending)) false, lines.after)

end ChartManifests.Yaml
