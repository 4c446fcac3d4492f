import ChartManifests.Program.Utility.Editing.Script
import ChartManifests.Program.Utility.Tree
import ChartManifests.Text.Utf8
/-!
The editor of lines: each line is read, goes through the commands of a script, and is written. What
is left of a line can be kept for later lines, and lines can be joined.
-/

namespace ChartManifests.Program.Editing

open Text (Expression)

structure InputLine where
  text : List Char
  ended : Bool
  name : String
deriving DecidableEq, Repr

/-- The state of an editor. `queue` is what is written before the next line is read, `owes` tells
that the end of the last written line was not there, `used` is the pattern that was used last, and
`ranges` are the ranges that have begun, by their commands, with the last of their lines if it is
known. `mark` is what ends a line, `taken` counts the lines that were taken from files one by one,
and `lost` tells that the pattern used last was asked for and there was none. -/
structure Editor where
  quiet : Bool
  input : List InputLine
  number : Nat
  line : InputLine
  kept : List Char
  queue : List Char
  output : List (List Char)
  owes : Bool
  replaced : Bool
  used : Option Expression
  ranges : List (Nat × Option Nat)
  files : List (String × List Char)
  status : Nat
  mark : Char
  taken : List (String × Nat)
  lost : Bool

namespace Editor

def emit (editor : Editor) (text : List Char) : Editor :=
  if text.isEmpty then editor
  else
    let opening := if editor.owes then [editor.mark] else []
    { editor with output := (opening ++ text) :: editor.output, owes := false }

def emitLine (editor : Editor) (text : List Char) : Editor :=
  let opening := if editor.owes then [editor.mark] else []
  let ending := if editor.line.ended then [editor.mark] else []
  { editor with
    output := (opening ++ text ++ ending) :: editor.output
    owes := !editor.line.ended }

def flush (editor : Editor) : Editor := { editor.emit editor.queue with queue := [] }

def finish (editor : Editor) : Editor :=
  if editor.quiet then editor else editor.emitLine editor.line.text

def isLast (editor : Editor) : Bool := editor.input.isEmpty

def setText (editor : Editor) (text : List Char) : Editor :=
  { editor with line := { editor.line with text } }

def writeTo (editor : Editor) (path : String) (text : List Char) : Editor :=
  if path = "/dev/stdout" then editor.emit (text ++ [editor.mark])
  else
    let old := (editor.files.lookup path).getD []
    { editor with
      files := (editor.files.filter (·.1 ≠ path)) ++ [(path, old ++ text ++ [editor.mark])] }

def patternFor (editor : Editor) (pattern : LinePattern) : Option Expression :=
  pattern.expression.or editor.used

def isAt (editor : Editor) : Address → Bool × Editor
  | .line number => (editor.number = number, editor)
  | .every first step =>
    (if step = 0 then editor.number = first
      else first ≤ editor.number && (editor.number - first) % step = 0, editor)
  | .last => (editor.isLast, editor)
  | .pattern pattern =>
    match editor.patternFor pattern with
    | none => (false, { editor with lost := true })
    | some expression =>
      ((Expression.find pattern.folds expression [] editor.line.text).isSome,
        { editor with used := some expression })

def opensRange (editor : Editor) : RangeEnd → Option (Option Nat)
  | .address (.line last) => if last ≤ editor.number then none else some (some last)
  | .address .last => if editor.isLast then none else some none
  | .address _ => some none
  | .after count => if count = 0 then none else some (some (editor.number + count))
  | .multiple count =>
    let last := if count = 0 then editor.number
      else (editor.number + count - 1) / count * count
    if last ≤ editor.number then none else some (some last)

def setRange (editor : Editor) (index : Nat) (range : Option (Option Nat)) : Editor :=
  let others := editor.ranges.filter (·.1 ≠ index)
  { editor with ranges := (range.map fun last => (index, last)).toList ++ others }

def isInRange (editor : Editor) (index : Nat) (scope : Scope) : Bool × Editor :=
  match scope.first, scope.finish with
  | none, _ => (true, editor)
  | some first, none => editor.isAt first
  | some first, some finish =>
    let fromStart := match first with
      | .line 0 => editor.number = 1 && !editor.ranges.any fun range => range.1 = index
      | _ => false
    let begun := if fromStart then some none else editor.ranges.lookup index
    match begun with
    | some (some last) =>
      (editor.number ≤ last,
        if last ≤ editor.number then editor.setRange index none else editor)
    | some none =>
      match finish with
      | .address address =>
        let (ends, next) := editor.isAt address
        (true, next.setRange index (if ends then none else some none))
      | _ => (true, editor)
    | none =>
      let (starts, next) := editor.isAt first
      if starts then (true, next.setRange index (next.opensRange finish)) else (false, next)

def isChosen (editor : Editor) (index : Nat) (scope : Scope) : Bool × Editor :=
  let (inside, next) := editor.isInRange index scope
  (inside != scope.negated, next)

end Editor

structure CaseChange where
  lasting : Option Char
  once : Option Char
deriving DecidableEq, Repr

def CaseChange.apply (change : CaseChange) (characters : List Char) : List Char × CaseChange :=
  let turn (letter : Option Char) (character : Char) : Char :=
    match letter with
    | some 'U' | some 'u' => character.toUpper
    | some 'L' | some 'l' => character.toLower
    | _ => character
  let all := characters.map (turn change.lasting)
  match all with
  | first :: rest =>
    if change.once.isSome then (turn change.once first :: rest, { change with once := none })
    else (all, change)
  | [] => ([], change)

def replacementText (found : Expression.Found) : CaseChange → List ReplacementPart → List Char
  | _, [] => []
  | change, part :: rest =>
    let put (characters : List Char) : List Char :=
      let (shown, next) := change.apply characters
      shown ++ replacementText found next rest
    match part with
    | .text characters => put characters
    | .held 0 => put found.matched
    | .held number => put ((found.held.lookup number).getD [])
    | .case 'E' => replacementText found ⟨none, none⟩ rest
    | .case letter =>
      replacementText found
        (if letter = 'U' ∨ letter = 'L' then ⟨some letter, change.once⟩
          else { change with once := some letter }) rest

/-- Replaces parts of a text from the given one on; tells whether one was replaced. `blocked` tells
that a part has just ended here, so that nothing is no part. -/
def substituted (substitution : Substitution) (expression : Expression) :
    Nat → Nat → Bool → List Char → List Char → List Char × Bool
  | 0, _, _, _, rest => (rest, false)
  | bound + 1, count, blocked, passed, rest =>
    match Expression.find substitution.pattern.folds expression passed rest with
    | none => (rest, false)
    | some found =>
      let between := found.before.drop passed.length
      let here := found.before.reverse
      let isVacuous := found.matched.isEmpty
      let stepOver (shown : List Char) (replaced : Bool) (count : Nat) : List Char × Bool :=
        match found.after with
        | next :: after =>
          let (others, more) :=
            substituted substitution expression bound count false (next :: here) after
          (between ++ shown ++ next :: others, replaced || more)
        | [] => (between ++ shown, replaced)
      if isVacuous && blocked && between.isEmpty then stepOver [] false count
      else
        let isWanted := substitution.number ≤ count
        let shown := if isWanted then
            replacementText found ⟨none, none⟩ substitution.parts
          else found.matched
        if isWanted && !substitution.all then (between ++ shown ++ found.after, true)
        else if isVacuous then stepOver shown isWanted (count + 1)
        else
          let (others, more) := substituted substitution expression bound (count + 1) true
            (found.matched.reverse ++ here) found.after
          (between ++ shown ++ others, isWanted || more)

def spelledOut (characters : List Char) : List (List Char) :=
  characters.map fun character =>
    match character with
    | '\\' => ['\\', '\\']
    | '\x07' => ['\\', 'a']
    | '\x08' => ['\\', 'b']
    | '\x0c' => ['\\', 'f']
    | '\n' => ['\\', 'n']
    | '\r' => ['\\', 'r']
    | '\t' => ['\\', 't']
    | '\x0b' => ['\\', 'v']
    | _ =>
      if ' ' ≤ character ∧ character ≤ '~' then [character]
      else
        let digits := Nat.toDigits 8 character.toNat
        '\\' :: List.replicate (3 - digits.length) '0' ++ digits

def spelledLines : Nat → List (List Char) → List Char
  | _, [] => ['$', '\n']
  | used, part :: rest =>
    if 69 < used + part.length then '\\' :: '\n' :: part ++ spelledLines part.length rest
    else part ++ spelledLines (used + part.length) rest

/-- What happens after a command: the next one, one elsewhere, the end of the script, the end
without a written line, the script again with what is left, or the end of all. -/
inductive Flow
  | goOn
  | goTo (index : Nat)
  | over
  | dropped
  | again
  | stopped
deriving DecidableEq, Repr

def behindGroup (commands : Array Command) : Nat → Nat → Nat → Nat
  | 0, index, _ => index
  | bound + 1, index, depth =>
    match (commands[index]?).map Command.action with
    | none => index
    | some .opening => behindGroup commands bound (index + 1) (depth + 1)
    | some .closing =>
      if depth ≤ 1 then index + 1 else behindGroup commands bound (index + 1) (depth - 1)
    | some _ => behindGroup commands bound (index + 1) depth

def placeOfLabel (commands : Array Command) (name : String) : Nat :=
  if name = "" then commands.size
  else
    (commands.findIdx? fun command => match command.action with
      | .label other => other = name
      | _ => false).getD commands.size

def Editor.advance (editor : Editor) (join : Bool) : Editor :=
  match editor.input with
  | [] => editor
  | next :: input =>
    let text := if join then editor.line.text ++ editor.mark :: next.text else next.text
    { editor.flush with input, number := editor.number + 1, line := { next with text } }

def linesBy (mark : Char) : List Char → List (List Char)
  | [] => []
  | character :: rest =>
    if character = mark then [] :: linesBy mark rest
    else
      match linesBy mark rest with
      | [] => [[character]]
      | line :: lines => (character :: line) :: lines

def perform (fetch : String → List Char) (commands : Array Command) (index : Nat)
    (command : Command) (editor : Editor) : Editor × Flow :=
  let text := editor.line.text
  let mark := editor.mark
  let first := text.takeWhile (· ≠ mark)
  match command.action with
  | .opening | .closing | .label _ => (editor, .goOn)
  | .branch kind label =>
    let goes := match kind with
      | .always => true
      | .replaced => editor.replaced
      | .unreplaced => !editor.replaced
    (if kind = .always then editor else { editor with replaced := false },
      if goes then .goTo (placeOfLabel commands label) else .goOn)
  | .substitute substitution =>
    match editor.patternFor substitution.pattern with
    | none => ({ editor with lost := true }, .stopped)
    | some expression =>
      let (result, replaced) :=
        substituted substitution expression (text.length + 2) 1 false [] text
      let used := { editor with used := some expression }
      if !replaced then (used, .goOn)
      else
        let changed := { used.setText result with replaced := true }
        let printed := if substitution.prints then changed.emitLine result else changed
        (match substitution.target with
          | some path => printed.writeTo path result
          | none => printed, .goOn)
  | .exchange pairs =>
    (editor.setText (text.map fun character => (pairs.lookup character).getD character), .goOn)
  | .text .before characters => (editor.emit characters, .goOn)
  | .text .behind characters => ({ editor with queue := editor.queue ++ characters }, .goOn)
  | .text .instead characters =>
    let isInside := editor.ranges.any fun range => range.1 = index
    (if isInside && !command.scope.negated then editor else editor.emit characters, .dropped)
  | .delete => (editor, .dropped)
  | .deleteFirst =>
    if first.length = text.length then (editor, .dropped)
    else (editor.setText (text.drop (first.length + 1)), .again)
  | .print => (editor.emitLine text, .goOn)
  | .printFirst => (editor.emit (first ++ [mark]), .goOn)
  | .next =>
    if editor.isLast then (editor, .stopped) else (editor.finish.advance false, .goOn)
  | .join => if editor.isLast then (editor, .stopped) else (editor.advance true, .goOn)
  | .hold appends =>
    ({ editor with kept := if appends then editor.kept ++ mark :: text else text }, .goOn)
  | .fetch appends =>
    (editor.setText (if appends then text ++ mark :: editor.kept else editor.kept), .goOn)
  | .swap => ({ editor.setText editor.kept with kept := text }, .goOn)
  | .empty => (editor.setText [], .goOn)
  | .number => (editor.emit ((toString editor.number).toList ++ ['\n']), .goOn)
  | .spell => (editor.emit (spelledLines 0 (spelledOut text)), .goOn)
  | .name => (editor.emit (editor.line.name.toList ++ [mark]), .goOn)
  | .quit prints status =>
    ({ (if prints then editor else { editor with quiet := true, queue := [] }) with status },
      .stopped)
  | .read path => ({ editor with queue := editor.queue ++ fetch path }, .goOn)
  | .readLine path =>
    let count := (editor.taken.lookup path).getD 0
    match (linesBy mark (fetch path))[count]? with
    | none => (editor, .goOn)
    | some line =>
      ({ editor with
          queue := editor.queue ++ line ++ [mark]
          taken := (path, count + 1) :: editor.taken }, .goOn)
  | .write path onlyFirst =>
    (editor.writeTo path (if onlyFirst then first else text), .goOn)

def runFrom (fetch : String → List Char) (commands : Array Command) :
    Nat → Nat → Editor → Option (Editor × Flow)
  | 0, _, _ => none
  | bound + 1, index, editor =>
    match commands[index]? with
    | none => some (editor, .over)
    | some command =>
      let (chosen, next) := editor.isChosen index command.scope
      if next.lost then some (next, .stopped)
      else if !chosen then
        let beyond := match command.action with
          | .opening => behindGroup commands commands.size index 0
          | _ => index + 1
        runFrom fetch commands bound beyond next
      else
        match perform fetch commands index command next with
        | (after, .goOn) => runFrom fetch commands bound (index + 1) after
        | (after, .goTo place) => runFrom fetch commands bound place after
        | result => some result

def longestRun : Nat := 100000

def editAll (fetch : String → List Char) (commands : Array Command) :
    Nat → Bool → Editor → Option Editor
  | 0, _, _ => none
  | bound + 1, fresh, editor =>
    if fresh && editor.isLast then some editor
    else
      let started := if fresh then editor.advance false else editor
      match runFrom fetch commands longestRun 0 { started with replaced := false } with
      | none => none
      | some (after, .stopped) =>
        some { (if after.lost then after else after.finish.flush) with input := [] }
      | some (after, .dropped) => editAll fetch commands bound true after.flush
      | some (after, .again) => editAll fetch commands bound false after.flush
      | some (after, _) => editAll fetch commands bound true after.finish.flush

def inputLines (mark : Char) (name : String) (content : Text.Bytes) : List InputLine :=
  let characters := Text.charactersOf content
  let lines := (linesBy mark characters).map fun line => InputLine.mk line true name
  if characters.getLast? = some mark then lines
  else lines.dropLast ++ (lines.getLast?.map ({ · with ended := false })).toList

def missingLabel? (commands : Array Command) : Option String :=
  commands.toList.findSome? fun command => match command.action with
    | .branch _ name =>
      if name ≠ "" ∧ placeOfLabel commands name = commands.size then some name else none
    | _ => none

end ChartManifests.Program.Editing

namespace ChartManifests.Program.Utility

open Text (Bytes)

def editOptions : Options where
  alone := "bnErsuz"
  valued := "efl"
  long := [("quiet", 'n'), ("silent", 'n'), ("regexp-extended", 'E'), ("expression", 'e'),
    ("file", 'f'), ("separate", 's'), ("null-data", 'z'), ("unbuffered", 'u'),
    ("line-length", 'l')]
  status := 1
  first := false

def inPlace? (word : String) : Option (List Char × String) :=
  match word.toList with
  | '-' :: '-' :: name =>
    if "in-place".toList.isPrefixOf name then
      some ([], String.ofList (name.drop ("in-place".length + 1)))
    else none
  | '-' :: letters =>
    let others := letters.takeWhile fun letter => editOptions.alone.toList.contains letter
    match letters.drop others.length with
    | 'i' :: ending => some (others, String.ofList ending)
    | _ => none
  | _ => none

def placesOf : Nat → List (List Char) → List Nat
  | _, [] => []
  | start, part :: rest => start :: placesOf (start + part.length + 1) rest

def copyName (path ending : String) : String :=
  if ending.toList.contains '*' then
    String.ofList (ending.toList.flatMap fun character =>
      if character = '*' then path.toList else [character])
  else path ++ ending

def writeAnew (path : String) (content : Bytes) : Run Unit := do
  let saved := (← get).descriptors
  match ← openPath .writing path with
  | .error fault => fail 4 ("couldn't open file " ++ path ++ ": " ++ fault.wording)
  | .ok number => do
    modify fun state => state.connect 1 number
    put content
    modify fun state => { state with descriptors := saved }

def sed (arguments : List String) : Run Nat := do
  let changing := arguments.filterMap inPlace?
  let plain := arguments.flatMap fun word => match inPlace? word with
    | some ([], _) => []
    | some (letters, _) => [String.ofList ('-' :: letters)]
    | none => [word]
  let (given, operands) ← editOptions.read plain
  let mut parts : List (List Char) := []
  for entry in given do
    if entry.1 = 'e' then parts := parts ++ [entry.2.toList]
    else if entry.1 = 'f' then
      match ← contentOf entry.2 with
      | .ok content =>
        let text := Text.charactersOf content
        parts := parts ++ [if text.getLast? = some '\n' then text.dropLast else text]
      | .error fault => fail 4 ("couldn't open file " ++ entry.2 ++ ": " ++ fault.wording)
  let paths ← if parts.isEmpty then
      match operands with
      | [] => do
        writeText 2 ("Usage: " ++ (← get).title
          ++ " [OPTION]... \x7bscript-only-if-no-other-script\x7d [input-file]...\n")
        throw (.exited 1)
      | script :: others => do
        parts := [script.toList]
        pure others
    else pure operands
  let text := ['\n'].intercalate parts
  let quiet := given.has 'n' || text.take 3 = ['#', 'n', '\n'] || text = ['#', 'n']
  match Editing.readScript (given.has 'E' || given.has 'r') text with
  | .error (fault, place) => do
    let starts := placesOf 0 parts
    let index := max 1 (starts.filter (· < max place 1)).length
    fail 1 ("-e expression #" ++ toString index ++ ", char "
      ++ toString (place - (starts[index - 1]?).getD 0) ++ ": " ++ fault)
  | .ok commands => do
    let script := commands.toArray
    match Editing.missingLabel? script with
    | some name => fail 4 ("can't find label for jump to `" ++ name ++ "'")
    | none => pure ()
    let state ← get
    let mark := if given.has 'z' then '\x00' else '\n'
    let fetch (path : String) : List Char :=
      Text.charactersOf ((state.files.content? state.current path).getD [])
    let fresh (input : List Editing.InputLine) (ranges : List (Nat × Option Nat)) :
        Editing.Editor :=
      ⟨quiet, input, 0, ⟨[], true, "-"⟩, [], [], [], false, false, none, ranges, [], 0, mark, [],
        false⟩
    let edit (input : List Editing.InputLine) : Run Editing.Editor := do
      match Editing.editAll fetch script (2 * input.length + 2) true (fresh input []) with
      | some editor => pure editor
      | none => Run.stall
    let outputOf (editor : Editing.Editor) : Bytes :=
      Text.ofCharacters editor.output.reverse.flatten
    let conclude (editor : Editing.Editor) : Run Unit := do
      if editor.lost then fail 1 "-e expression #1, char 0: no previous regular expression"
      for (path, content) in editor.files do
        if path = "/dev/stderr" then discard (write 2 (Text.ofCharacters content))
        else writeAnew path (Text.ofCharacters content)
    let mut status := 0
    let mut input : List Editing.InputLine := []
    let mut broken := false
    for path in if paths.isEmpty then ["-"] else paths do
      if !broken then
        match ← contentOf path with
        | .ok content => do
          let lines := Editing.inputLines mark path content
          match changing.getLast? with
          | some (_, ending) => do
            let editor ← edit lines
            if ending ≠ "" then writeAnew (copyName path ending) content
            writeAnew path (outputOf editor)
            conclude editor
          | none =>
            if given.has 's' then do
              let editor ← edit lines
              put (outputOf editor)
              conclude editor
            else input := input ++ lines
        | .error .isDirectory => do
          if changing.isEmpty then complain ("read error on " ++ path ++ ": Is a directory")
          else complain ("couldn't edit " ++ path ++ ": not a regular file")
          status := 4
          broken := changing.isEmpty
        | .error fault => do
          complain ("can't read " ++ path ++ ": " ++ fault.wording)
          status := 2
    if changing.isEmpty && !given.has 's' then do
      let editor ← edit input
      put (outputOf editor)
      conclude editor
      pure (if editor.status ≠ 0 then editor.status else status)
    else pure status

end ChartManifests.Program.Utility
