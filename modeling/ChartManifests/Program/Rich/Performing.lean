import ChartManifests.Program.Rich.Expansion
import ChartManifests.Program.Rich.Running
/-!
Statements of the rich shell: pipelines, loops, choices, conditions and calculations.
-/

namespace ChartManifests.Program.Rich

open Shell (Arm Redirection Statement Test Word)

def longestLoop : Nat := 10 ^ 12

def withoutQuotes (word : Word) : Word :=
  word.map fun piece => match piece with
    | .text characters quoted => .text (characters.filter (· ≠ '"')) quoted
    | other => other

def pipelineStatus (state : State) (statuses : List Nat) : Nat :=
  if state.isNamed "pipefail" then (statuses.reverse.find? (· ≠ 0)).getD 0
  else statuses.getLast?.getD 0

def awaitStages : List (Nat × String) → Run (List Nat)
  | [] => pure []
  | (identity, text) :: rest => do
    let status ← awaitProgram identity text
    let others ← awaitStages rest
    pure (status :: others)

def Means.pipeline (means : Means) (negated : Bool) (stages : List Statement) : Run Unit := do
  let shielded := (← get).shielded
  if negated then modify fun state => { state with shielded := true }
  match stages with
  | [] => setStatus 0
  | [stage] => means.run false [stage]
  | _ => do
    let identities ← means.stages State.branch none stages
    let statuses ← awaitStages (identities.zip (stages.map Statement.display))
    noteStatuses statuses
    setStatus (pipelineStatus (← get) statuses)
  modify fun state => { state with shielded }
  if negated then setStatus (if (← get).status = 0 then 1 else 0)
  else if stages.length ≠ 1 then means.judge

def Means.subshell (means : Means) (body : List Statement) : Run Unit := do
  let status ← means.isolated ((← get).branch.withExtras fun extras =>
    { extras with siblings := [] }) body
  setStatus status
  noteStatuses [status]
  means.judge

def Means.redirected (means : Means) (body : Statement) (line : Nat)
    (redirections : List Redirection) : Run Unit := do
  modify fun state => { state with line := shiftedLine state line }
  let channels := (← get).extra.channels
  let opened ← withDescriptors redirections do
    if ← redirect means redirections then do
      means.run false [body]
      pure true
    else pure false
  closeChannels channels
  if !opened then do
    setStatus 1
    means.judge

def Means.calculated (means : Means) (expression : Word) : Run (Option Int) := do
  let text ← means.text (withoutQuotes expression)
  means.trace ("(( " ++ text ++ " ))")
  match calculate (← get) text with
  | .ok (value, state) => do
    set state
    pure (some value)
  | .error (.unbound name) => abandon (.unbound name)
  | .error fault => do
    blame "((" fault.message
    pure none

def Means.calculation (means : Means) (line : Nat) (expression : Word) : Run Unit := do
  modify fun state => { state with line := shiftedLine state line }
  means.happen debugging
  let value? ← means.calculated expression
  let status := if value?.any (· ≠ 0) then 0 else 1
  setStatus status
  noteStatuses [status]
  means.judge

def Means.compared (means : Means) (operator : String) (left right : Word) : Deed Bool := do
  let first ← means.text (homeWord (← get) false left)
  let state ← get
  let folds := state.isOn "nocasematch"
  let show_ (second : String) : Run Unit :=
    means.trace ("[[ " ++ first ++ " " ++ operator ++ " " ++ second ++ " ]]")
  match operator with
  | "==" | "=" | "!=" => do
    let marks ← means.marks (homeWord state false right)
    (show_ (fieldText marks) : Run Unit)
    let fits := fitsText folds marks first
    pure (if operator = "!=" then !fits else fits)
  | "=~" => do
    let marks ← means.marks right
    (show_ (fieldText marks) : Run Unit)
    match foundIn folds marks first with
    | none => throw 2
    | some found => do
      let items := (found.getD []).map fun item => (⟨none, false, item⟩ : Given)
      match assignList (← get) "BASH_REMATCH" false items with
      | .ok after => set after
      | .error _ => pure ()
      pure found.isSome
  | _ => do
    let second ← means.text (homeWord state false right)
    (show_ second : Run Unit)
    if operator = "<" then pure (first < second)
    else if operator = ">" then pure (second < first)
    else if isNumeric operator then do
      let value (text : String) : Deed Int := do
        match calculate (← get) text with
        | .ok (value, after) => do
          set after
          pure value
        | .error (.unbound name) => (abandon (.unbound name) : Run Int)
        | .error fault => quit "[[" fault.message 1
      let one ← value first
      let other ← value second
      pure (compareNumbers operator one other)
    else
      match binaryHolds (← get) first operator second with
      | .ok holds => pure holds
      | .error fault => quit "[[" fault.message 2

def Means.holds (means : Means) : Test → Deed Bool
  | .word word => do
    let text ← means.text (homeWord (← get) false word)
    (means.trace ("[[ -n " ++ text ++ " ]]") : Run Unit)
    pure (text ≠ "")
  | .unary operator operand => do
    let text ← means.text (homeWord (← get) false operand)
    (means.trace ("[[ " ++ operator ++ " " ++ text ++ " ]]") : Run Unit)
    match unaryHolds (← get) operator text with
    | .ok holds => pure holds
    | .error fault => quit "[[" fault.message 2
  | .binary operator left right => means.compared operator left right
  | .negated inner => do pure !(← means.holds inner)
  | .both first second => do
    if ← means.holds first then means.holds second else pure false
  | .either first second => do
    if ← means.holds first then pure true else means.holds second

def Means.test (means : Means) (line : Nat) (test : Test) : Run Unit := do
  modify fun state => { state with line := shiftedLine state line }
  means.happen debugging
  let status ← match ← (means.holds test).run with
    | .ok holds => pure (if holds then 0 else 1)
    | .error status => pure status
  setStatus status
  noteStatuses [status]
  means.judge

def inLoop (action : Run Unit) : Run Unit := do
  let loops := (← get).loops
  modify fun state => { state with loops := loops + 1 }
  action
  modify fun state => { state with loops }

def Means.turn (means : Means) (body : List Statement) : Run Bool := do
  let (_, goesOn) ← runTurn do
    means.run false body
    pure true
  pure goesOn

def Means.goAround (means : Means) (line : Nat) (name shown : String) (body : List Statement) :
    List String → Run Unit
  | [] => pure ()
  | word :: rest => do
    modify fun state => { state with line := shiftedLine state line }
    means.happen debugging
    means.trace shown
    let state ← get
    if (state.find name).any fun parameter => parameter.refers then do
      set (state.store name word)
      if ← means.turn body then means.goAround line name shown body rest
    else
      match assignPlace state ⟨name, none⟩ false word with
      | .ok after => do
        set after
        if ← means.turn body then means.goAround line name shown body rest
      | .error fault => do
        complain fault.message
        setStatus 1
        means.judge

def Means.loopWords (means : Means) : Option (List Word) → Run (List String)
  | some words => do pure (← words.mapM means.fields).flatten
  | none => do pure (← get).arguments

def headText (opening name : String) (words : Option (List Word)) : String :=
  opening ++ " " ++ name ++ " in " ++ (match words with
    | some words => " ".intercalate (words.map Shell.displayWord)
    | none => "\"$@\"")

def checkName (name : String) : Run Bool := do
  if isParameterName name then pure true
  else do
    complain ("`" ++ name ++ "': not a valid identifier")
    setStatus 1
    pure false

def Means.each (means : Means) (line : Nat) (name : String) (words : Option (List Word))
    (body : List Statement) : Run Unit := do
  modify fun state => { state with line := shiftedLine state line }
  if ← checkName name then do
    let fields ← means.loopWords words
    setStatus 0
    inLoop (means.goAround line name (headText "for" name words) body fields)

def menuShape (words : List String) : Nat × Nat :=
  let indices := (toString words.length).length
  let widest := ((words.map String.length).foldl max 0) + indices + 4
  let fitting := max 1 (80 / widest)
  let rows := (words.length + fitting - 1) / fitting
  let columns := if rows = 0 then 1 else (words.length + rows - 1) / rows
  if rows = 1 then (columns, 1) else (max 1 rows, columns)

def indentation (start stop : Nat) : String :=
  let rec go : Nat → Nat → List Char
    | 0, _ => []
    | bound + 1, place =>
      if stop ≤ place then []
      else if place / 8 < stop / 8 then '\t' :: go bound (place / 8 * 8 + 8)
      else ' ' :: go bound (place + 1)
  String.ofList (go (stop + 1) start)

def menuText (words : List String) : String :=
  let (rows, columns) := menuShape words
  let indices := (toString words.length).length
  let width := ((words.map String.length).foldl max 0) + indices + 4
  let firstIndices := (toString rows).length
  let line (row : Nat) : String :=
    let rec go : Nat → Nat → Nat → String
      | 0, _, _ => "\n"
      | bound + 1, column, place =>
        match words[column * rows + row]? with
        | none => "\n"
        | some word =>
          let digits := if column = 0 then firstIndices else indices
          let number := toString (column * rows + row + 1)
          let shown := String.ofList (List.replicate (digits - number.length) ' ') ++ number ++ ") "
            ++ word
          let isLast := words.length ≤ (column + 1) * rows + row
          shown ++ (if isLast then "\n"
            else indentation (place + shown.length) (place + width)
              ++ go bound (column + 1) (place + width))
    go columns 0 0
  String.join ((List.range rows).map line)

def Means.choose (means : Means) (name : String) (words : List String) (body : List Statement) :
    Nat → Bool → Run Unit
  | 0, _ => Run.stall
  | bound + 1, shows => do
    if shows then writeText 2 (menuText words)
    writeText 2 (((← get).value? "PS3").getD "#? ")
    let (bytes, ended) := match ← takeLine 0 with
      | .ok line => line
      | .error _ => ([], false)
    let reply := String.ofList (((Text.charactersOf bytes).dropWhile Char.isWhitespace).reverse
      |>.dropWhile Char.isWhitespace).reverse
    assignParameter "REPLY" reply
    if !ended && bytes.isEmpty then do
      writeText 1 "\n"
      setStatus 1
    else if reply = "" then means.choose name words body bound true
    else do
      let chosen := (reply.toNat?.bind fun number =>
        if number = 0 then none else words[number - 1]?).getD ""
      assignParameter name chosen
      if ← means.turn body then means.choose name words body bound false

def Means.menu (means : Means) (line : Nat) (name : String) (words : Option (List Word))
    (body : List Statement) : Run Unit := do
  modify fun state => { state with line := shiftedLine state line }
  if ← checkName name then do
    means.trace (headText "select" name words)
    let fields ← means.loopWords words
    setStatus 0
    if !fields.isEmpty then inLoop (means.choose name fields body longestLoop true)

def Means.loopValue (means : Means) (line : Nat) (expression : Word) (shown : Bool) :
    Run (Option Int) := do
  modify fun state => { state with line := shiftedLine state line }
  match expression with
  | [] => do
    if shown then means.trace "(( 1 ))"
    pure (some 1)
  | _ => do
    means.happen debugging
    means.calculated expression

def Means.goCounting (means : Means) (line : Nat) (check step : Word) (body : List Statement) :
    Nat → Run Unit
  | 0 => Run.stall
  | bound + 1 => do
    match ← means.loopValue line check true with
    | none => setStatus 1
    | some 0 => pure ()
    | some _ => do
      if ← means.turn body then
        match ← means.loopValue line step false with
        | none => setStatus 1
        | some _ => means.goCounting line check step body bound

def Means.counted (means : Means) (line : Nat) (start check step : Word)
    (body : List Statement) : Run Unit := do
  match ← means.loopValue line start false with
  | none => do
    setStatus 1
    means.judge
  | some _ => do
    setStatus 0
    inLoop (means.goCounting line check step body longestLoop)

def Means.anyFits (means : Means) (text : String) : List Word → Run Bool
  | [] => pure false
  | word :: rest => do
    let marks ← means.marks (homeWord (← get) false word)
    let state ← get
    let folds := state.isOn "nocasematch"
    let pattern := if folds then marks.map fun mark => (mark.1.toLower, mark.2) else marks
    if Shell.fits (patternFor state pattern) (withoutCase folds text.toList) then pure true
    else means.anyFits text rest

/-- Runs the arms of a choice whose patterns fit. An arm may lead on to the next one, with its body
or with its patterns; `falls` tells that the body is run whatever its patterns are. -/
def Means.arms (means : Means) (final : Bool) (text : String) : Bool → Bool → List Arm → Run Unit
  | found, _, [] => if found then pure () else setStatus 0
  | found, falls, .mk patterns body ending :: rest => do
    if falls || (← means.anyFits text patterns) then do
      if !found then setStatus 0
      means.run (final && ending = .stops) body
      match ending with
      | .stops => pure ()
      | .falls => means.arms final text true true rest
      | .searches => means.arms final text true false rest
    else means.arms final text found false rest

def Means.choice (means : Means) (final : Bool) (line : Nat) (word : Word) (arms : List Arm) :
    Run Unit := do
  modify fun state => { state with line := shiftedLine state line }
  means.happen debugging
  means.trace ("case " ++ Shell.displayWord word ++ " in")
  let text ← means.text (homeWord (← get) false word)
  means.arms final text false false arms

def define (name : String) (body : Statement) : Run Unit :=
  modify fun state =>
    { state with
      functions := (name, body) :: state.functions.filter (·.1 ≠ name)
      status := 0 }.withExtras fun extras =>
        let source := (State.sources extras).head?.getD "environment"
        { extras with homes := (name, source) :: extras.homes.filter (·.1 ≠ name) }

def secondsText (places microseconds : Nat) : String :=
  let unit := 1000000 / 10 ^ places
  toString (microseconds / 1000000) ++ "."
    ++ Calendar.padded places (microseconds % 1000000 / unit)

def Means.timed (means : Means) (portable : Bool) (body : Statement) : Run Unit := do
  let begun := (← get).clock
  means.run false [body]
  let spent := (← get).clock - begun
  if portable then
    writeText 2 ("real " ++ secondsText 2 spent ++ "\nuser 0.00\nsys 0.00\n")
  else
    writeText 2 ("\nreal\t" ++ toString (spent / 60000000) ++ "m"
      ++ secondsText 3 (spent % 60000000) ++ "s\nuser\t0m0.000s\nsys\t0m0.000s\n")

def Means.background (means : Means) (body : Statement) : Run Unit := do
  let (opened, null) := (← get).addStream (.device .null)
  set opened
  let stages := match body with
    | .pipeline false (first :: second :: others) => first :: second :: others
    | _ => [body]
  let identities ← means.stages State.aside (some null) stages
  Builtin.addJob (identities.getLast?.getD 0) body.display
  setStatus 0
  noteStatuses [0]

def lineOf? : Nat → Statement → Option Nat
  | 0, _ => none
  | bound + 1, statement =>
    match statement with
    | .simple line _ _ _ | .each line _ _ _ | .menu line _ _ _ | .counted line _ _ _ _
    | .choice line _ _ | .test line _ | .calculation line _ => some line
    | .redirected body line _ => (lineOf? bound body).or (some line)
    | .pipeline _ stages => stages.head?.bind (lineOf? bound)
    | .andThen first _ | .orElse first _ => lineOf? bound first
    | .background body | .timed _ body => lineOf? bound body
    | .group body | .subshell body => body.head?.bind (lineOf? bound)
    | .branch condition _ _ | .loop _ condition _ => condition.head?.bind (lineOf? bound)
    | .define _ _ => none

def deepestStatement : Nat := 1000

/-- The state of a shell whose output stands in a word: its lines count from the line of that word,
and it does not end with the first failure unless that is asked for. -/
def forOutput (state : State) (body : List Statement) : State :=
  let first := body.head?.bind (lineOf? deepestStatement)
  let shift : Int := match first with
    | some line => (state.line : Int) - line
    | none => state.extra.shift
  let keeps := state.isOn "inherit_errexit" || state.isNamed "posix"
  { state.branch with
    shielded := false
    options := if keeps then state.options else state.options.filter (· ≠ 'e') }.withExtras
      fun extras => { extras with shift, level := extras.level + 1 }

def inputFile? : List Statement → Option Word
  | [.simple _ [] [] [.mk (.number 0) .reading target]] => some target
  | _ => none

def Means.contentOf (means : Means) (target : Word) : Run Text.Bytes := do
  match ← means.fields target with
  | [path] => do
    match ← openPath .reading path with
    | .ok number => do
      let before ← get
      set (before.connect Utility.spareDescriptor number)
      let content ← take Utility.spareDescriptor none
      modify fun state => { state with descriptors := before.descriptors, outputStatus := 0 }
      pure content
    | .error fault => do
      complain (path ++ ": " ++ fault.wording)
      modify fun state => { state with outputStatus := 1 }
      pure []
  | _ => do
    complain (Shell.displayWord target ++ ": ambiguous redirect")
    modify fun state => { state with outputStatus := 1 }
    pure []

def withoutNulls (content : Text.Bytes) : Run Text.Bytes := do
  if content.contains 0 then
    complain "warning: command substitution: ignored null byte in input"
  pure (content.filter (· ≠ 0))

def channelDescriptor (state : State) : Nat :=
  (((List.range 50).map (63 - ·)).find? fun descriptor =>
    (state.streamNumber? descriptor).isNone).getD 63

def openChannel (descriptor number : Nat) : Run (List Part) := do
  modify fun state => (state.connect descriptor number).withExtras fun extras =>
    { extras with channels := descriptor :: extras.channels }
  pure (Part.ofQuoted ("/dev/fd/" ++ toString descriptor).toList)

def ready (state : State) (cursor : Shell.Cursor) : Shell.Cursor :=
  { cursor with
    aliases := if state.isOn "expand_aliases" then state.aliases else []
    grouping := state.isOn "extglob" }

/-- Runs a line of a script. If it is given up, the shell goes on with the next one; a shell that
branched off ends, and so does one that was asked to end with the first failure. -/
def guardedLine (action : Run Unit) : Run Unit := do
  let before ← get
  tryCatch action fun departure => match departure with
    | .refused => do
      modify fun state => { state with
        shielded := before.shielded, loops := before.loops, status := 1 }
      noteStatuses [1]
      let state ← get
      if 0 < state.extra.depth then throw .refused
      else if state.options.contains 'e' then throw (.exited 1)
      else pure ()
    | other => throw other

def noteOpenDocuments (documents : List (Nat × Nat × String)) : Run Unit := do
  let state ← get
  let source := (State.sources state.extra).head?.getD state.title
  for (last, first, delimiter) in documents do
    writeText 2 (source ++ ": line " ++ toString last ++ ": warning: here-document at line "
      ++ toString first ++ " delimited by end-of-file (wanted `" ++ delimiter ++ "')\n")

def reportFault (located : Shell.Located) : Run Unit := do
  let state ← get
  let extras := state.extra
  let source := (State.sources extras).head?.getD state.title
  let opening := source ++ ": " ++ (extras.origin.map (· ++ ": ")).getD "" ++ "line "
    ++ toString located.line ++ ": "
  let isOpenList := located.fault = .inList ""
  let isInList := located.fault matches .inList _
  let lines := if isOpenList then [Shell.Fault.message (.unmatched ')')]
    else located.fault.message :: located.fault.details located.shown
  for line in lines do
    writeText 2 (opening ++ line ++ "\n")
  setStatus (if isInList then 1 else 2)

end ChartManifests.Program.Rich
