import ChartManifests.Text.Expression
/-!
The spelling of regular expressions. In the basic one groups, bounds and choices are spelled with
backslashes, in the extended ones without. These differ in what they make of marks that have nothing
to do: a lenient one passes over them or takes them for themselves, a strict one finds fault.
-/

namespace ChartManifests.Text.Expression

inductive Spelling
  | basic
  | lenient
  | strict (paired : Bool)
deriving DecidableEq, Repr

namespace Spelling

def isExtended : Spelling → Bool
  | basic => false
  | lenient | strict _ => true

def isStrict : Spelling → Bool
  | strict _ => true
  | basic | lenient => false

end Spelling

inductive Fault
  | openBracket
  | loneBracket
  | openGroup
  | closedGroup
  | openBounds
  | badBounds
  | tooManyTimes
  | badRange
  | badClass
  | looseClass
  | badReference
  | nothingRepeated
  | trailingBackslash
deriving DecidableEq, Repr

def Fault.message : Fault → String
  | openBracket => "Unmatched [, [^, [:, [., or [="
  | loneBracket => "Invalid regular expression"
  | openGroup => "Unmatched ( or \\("
  | closedGroup => "Unmatched ) or \\)"
  | openBounds => "Unmatched \\\x7b"
  | badBounds => "Invalid content of \\\x7b\\\x7d"
  | tooManyTimes => "Regular expression too big"
  | badRange => "Invalid range end"
  | badClass => "Invalid character class name"
  | looseClass => "character class syntax is [[:space:]], not [:space:]"
  | badReference => "Invalid back reference"
  | nothingRepeated => "Invalid preceding regular expression"
  | trailingBackslash => "Trailing backslash"

structure Reading where
  expression : Expression
  groups : Nat
  rest : List Char

/-- The members of a set up to the bracket that closes it; `first` tells that nothing was read yet,
so that a bracket is a member. -/
def readMembers : Nat → Bool → List Char → Except Fault (List Member × List Char)
  | 0, _, _ => .error .openBracket
  | _ + 1, _, [] => .error .openBracket
  | bound + 1, first, character :: rest =>
    if character = ']' && !first then .ok ([], rest)
    else
      match character, rest with
      | '[', ':' :: more => do
        let name := more.takeWhile (· ≠ ':')
        if (more.drop name.length).take 2 ≠ [':', ']'] then .error .openBracket
        else if !classNames.contains (String.ofList name) then .error .badClass
        else
          let (members, after) ← readMembers bound false (more.drop (name.length + 2))
          .ok (.classOf (String.ofList name) :: members, after)
      | _, _ => do
        let (low, behind) := element character rest
        match behind with
        | '-' :: high :: more =>
          if high = ']' then
            let (members, after) ← readMembers bound false behind
            .ok (.range low low :: members, after)
          else
            let (top, last) := element high more
            if top < low then .error .badRange
            else
              let (members, after) ← readMembers bound false last
              .ok (.range low top :: members, after)
        | _ =>
          let (members, after) ← readMembers bound false behind
          .ok (.range low low :: members, after)
where
  /-- A character of a set, which may be spelled between marks. -/
  element (character : Char) (rest : List Char) : Char × List Char :=
    match character, rest with
    | '[', mark :: member :: closing :: ']' :: more =>
      if (mark = '=' ∨ mark = '.') ∧ closing = mark then (member, more) else (character, rest)
    | _, _ => (character, rest)

def readSet (characters : List Char) : Except Fault (Expression × List Char) := do
  let (negated, body) := match characters with
    | '^' :: rest => (true, rest)
    | _ => (false, characters)
  if body = [] then .error (if negated then .openBracket else .loneBracket)
  else
    let (members, rest) ← readMembers (body.length + 1) true body
    let inner := characters.take (characters.length - rest.length - 1)
    if inner.length > 1 ∧ inner.head? = some ':' ∧ inner.getLast? = some ':' then
      .error .looseClass
    else .ok (.oneOf negated members, rest)

def readBounds (extended : Bool) (characters : List Char) :
    Except Fault (Nat × Option Nat × List Char) :=
  let closing := if extended then ['\x7d'] else ['\\', '\x7d']
  let number (digits : List Char) : Nat := (String.ofList digits).toNat?.getD 0
  let low := characters.takeWhile Char.isDigit
  let behind := characters.drop low.length
  let (high, last) := match behind with
    | ',' :: more =>
      let digits := more.takeWhile Char.isDigit
      (if digits.isEmpty then none else some (number digits), more.drop digits.length)
    | _ => (some (number low), behind)
  if last = [] then .error .openBounds
  else if !closing.isPrefixOf last || (low.isEmpty && behind.head? ≠ some ',') then
    .error .badBounds
  else if high.any (· < number low) then .error .badBounds
  else if 32767 < max (number low) (high.getD 0) then .error .tooManyTimes
  else .ok (number low, high, last.drop closing.length)

def endsSequence (extended : Bool) (depth : Nat) : List Char → Bool
  | [] => true
  | '|' :: _ => extended
  | ')' :: _ => extended && 0 < depth
  | '\\' :: '|' :: _ => !extended
  | '\\' :: ')' :: _ => !extended
  | _ => false

def readTimes (spelling : Spelling) :
    List Char → Except Fault (Option (Nat × Option Nat × List Char))
  | '*' :: rest => .ok (some (0, none, rest))
  | '+' :: rest => .ok (if spelling.isExtended then some (1, none, rest) else none)
  | '?' :: rest => .ok (if spelling.isExtended then some (0, some 1, rest) else none)
  | '\x7b' :: rest =>
    if spelling.isExtended then
      match readBounds true rest with
      | .ok times => .ok (some times)
      | .error fault =>
        if spelling.isStrict then .error fault else
        let body := rest.takeWhile (· ≠ '\x7d')
        let isBounds := (rest.drop body.length).head? = some '\x7d' ∧ body ≠ [','] ∧
          body.head?.any Char.isDigit ∧ body.all fun other => other.isDigit || other = ','
        if isBounds then .error fault else .ok none
    else .ok none
  | '\\' :: '+' :: rest => .ok (if spelling.isExtended then none else some (1, none, rest))
  | '\\' :: '?' :: rest => .ok (if spelling.isExtended then none else some (0, some 1, rest))
  | '\\' :: '\x7b' :: rest =>
    if spelling.isExtended then .ok none else (readBounds false rest).map some
  | _ => .ok none

def escaped? (character : Char) : Option Expression :=
  let word : List Member := [.classOf "alnum", .range '_' '_']
  match character with
  | 'w' => some (.oneOf false word)
  | 'W' => some (.oneOf true word)
  | 's' => some (.oneOf false [.classOf "space"])
  | 'S' => some (.oneOf true [.classOf "space"])
  | '<' => some (.edge .wordStart)
  | '>' => some (.edge .wordFinish)
  | 'b' => some (.edge (.wordEdge true))
  | 'B' => some (.edge (.wordEdge false))
  | '`' => some (.edge .start)
  | '\'' => some (.edge .finish)
  | _ => none

mutual

def readChoice (spelling : Spelling) : Nat → Nat → Nat → List Char → Except Fault Reading
  | 0, _, groups, characters => .ok ⟨.nothing, groups, characters⟩
  | bound + 1, depth, groups, characters => do
    let first ← readSequence spelling bound depth true groups characters
    match spelling.isExtended, first.rest with
    | true, '|' :: rest | false, '\\' :: '|' :: rest =>
      let second ← readChoice spelling bound depth first.groups rest
      .ok { second with expression := .either first.expression second.expression }
    | _, _ => .ok first

def readSequence (spelling : Spelling) :
    Nat → Nat → Bool → Nat → List Char → Except Fault Reading
  | 0, _, _, groups, characters => .ok ⟨.nothing, groups, characters⟩
  | bound + 1, depth, first, groups, characters =>
    if endsSequence spelling.isExtended depth characters then .ok ⟨.nothing, groups, characters⟩
    else do
      let item ← readItem spelling bound depth first groups characters
      let isStart := if spelling.isStrict then item.expression matches .edge _
        else first && spelling = .basic && characters.head? = some '^'
      let others ← readSequence spelling bound depth isStart item.groups item.rest
      .ok { others with expression := .both item.expression others.expression }

def readItem (spelling : Spelling) : Nat → Nat → Bool → Nat → List Char → Except Fault Reading
  | 0, _, _, groups, characters => .ok ⟨.nothing, groups, characters⟩
  | bound + 1, depth, first, groups, characters => do
    let one (expression : Expression) (rest : List Char) : Except Fault Reading :=
      .ok ⟨expression, groups, rest⟩
    let grouped (rest : List Char) : Except Fault Reading := do
      let body ← readChoice spelling bound (depth + 1) (groups + 1) rest
      let closing := if spelling.isExtended then [')'] else ['\\', ')']
      if closing.isPrefixOf body.rest then
        .ok ⟨.group (groups + 1) body.expression, body.groups, body.rest.drop closing.length⟩
      else .error .openGroup
    let item ← match characters with
      | '[' :: rest => do
        let (expression, after) ← readSet rest
        one expression after
      | '.' :: rest => one .anyCharacter rest
      | '(' :: rest => if spelling.isExtended then grouped rest else one (.exactly '(') rest
      | '\\' :: '(' :: rest => if spelling.isExtended then one (.exactly '(') rest else grouped rest
      | '\\' :: character :: rest =>
        match escaped? character with
        | some expression => one expression rest
        | none =>
          if '1' ≤ character ∧ character ≤ '9' then
            let number := character.toNat - '0'.toNat
            if number ≤ groups then one (.again number) rest else .error .badReference
          else one (.exactly character) rest
      | ['\\'] => .error .trailingBackslash
      | '^' :: rest =>
        if spelling.isExtended || first then one (.edge .start) rest else one (.exactly '^') rest
      | '$' :: rest =>
        if spelling.isExtended || endsSequence false depth rest then one (.edge .finish) rest
        else one (.exactly '$') rest
      | '*' :: rest =>
        if spelling.isStrict then .error .nothingRepeated
        else if spelling.isExtended && first then one .nothing characters
        else one (.exactly '*') rest
      | '+' :: rest | '?' :: rest =>
        if spelling.isStrict then .error .nothingRepeated
        else if spelling.isExtended && first then one .nothing characters
        else one (.exactly (characters.headD '+')) rest
      | '\x7b' :: rest =>
        if spelling.isStrict then .error .nothingRepeated else one (.exactly '\x7b') rest
      | character :: rest => one (.exactly character) rest
      | [] => one .nothing []
    let isAnchor := if spelling.isStrict then item.expression matches .edge _
      else first && spelling = .basic && characters.head? = some '^'
    if isAnchor then .ok item else readRepeats spelling bound item

def readRepeats (spelling : Spelling) : Nat → Reading → Except Fault Reading
  | 0, item => .ok item
  | bound + 1, item => do
    match ← readTimes spelling item.rest with
    | some (low, high, rest) =>
      let expression := .repeated low high item.expression
      readRepeats spelling bound { item with expression, rest }
    | none => .ok item

end

def read (spelling : Spelling) (characters : List Char) : Except Fault (Expression × Nat) := do
  let depth := if spelling = .strict true then 1 else 0
  let reading ← readChoice spelling (4 * characters.length + 8) depth 0 characters
  match reading.rest with
  | [] => .ok (reading.expression, reading.groups)
  | _ => .error .closedGroup

def ofText (characters : List Char) : Expression :=
  characters.foldr (fun character others => .both (.exactly character) others) .nothing

end ChartManifests.Text.Expression
