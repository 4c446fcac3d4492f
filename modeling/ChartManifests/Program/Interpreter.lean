import ChartManifests.Program.Builtin.Plain
import ChartManifests.Program.Rich.Beginning
import ChartManifests.Program.Rich.Performing
/-!
The interpreter of scripts, and the start of programs: a program is a utility or a script, and a
script is run by the shell or by the program that its first line names.

Everything recurses on a bound that no script reaches; a program that came to it would wait for
ever.
-/

namespace ChartManifests.Program

open Shell (Assignment Word Piece Statement Redirection Treatment)

def redirectionText : FileFault → Shell.Opening → String
  | .missing, .reading | .notDirectory, .reading => "No such file"
  | .missing, _ | .notDirectory, _ => "Directory nonexistent"
  | fault, _ => fault.wording

def redirectionVerb : Shell.Opening → String
  | .reading => "open"
  | _ => "create"

def withoutLineEnds (characters : List Char) : List Char :=
  ((characters.reverse.dropWhile (· = '\n')).reverse).filter (· ≠ '\x00')

def guarded (state : State) (opening : Shell.Opening) : Shell.Opening :=
  if opening = .writing && state.options.contains 'C' then .creating else opening

def sourced (path : String) : Run Text.Bytes := do
  let state ← get
  let directories := ((state.value? "PATH").getD "").splitOn ":"
  let places := if hasSlash path then [path]
    else directories.map fun directory => below directory path
  let found := places.findSome? fun place =>
    match state.files.find state.current place with
    | .ok (_, .file content) => some content
    | .ok (_, .device _) => some []
    | _ => none
  match found with
  | some content => pure content
  | none =>
    refuse "." (if hasSlash path then "cannot open " ++ path ++ ": No such file"
      else path ++ ": not found")

def checkFailure : Run Unit := do
  let state ← get
  if state.status ≠ 0 && state.options.contains 'e' && !state.shielded then
    throw (.exited state.status)

def valueOf : Assignment → String × Word
  | .mk name _ _ value => (name, value)

def startTime : Nat := 400

mutual

def expand : Nat → Bool → Word → Run (List Part)
  | 0, _, _ => Run.stall
  | _ + 1, _, [] => pure []
  | bound + 1, splits, piece :: rest => do
    let first ← expandPiece bound splits piece
    let others ← expand bound splits rest
    pure (first ++ others)

def expandPiece : Nat → Bool → Piece → Run (List Part)
  | 0, _, _ => Run.stall
  | bound + 1, splits, piece => do
    match piece with
    | .text characters true => pure (Part.ofQuoted characters)
    | .text characters false => pure (Part.ofText characters false splits)
    | .parameter (.mk name indirect selection) treatment word second quoted => do
      if (← get).isRich then
        Rich.parameterParts (means bound) (.mk name indirect selection) treatment word second quoted
      else expandParameter bound name treatment word quoted
    | .output body quoted => do
      let content ← outputOf bound body
      pure (valueParts (String.ofList (withoutLineEnds (Text.charactersOf content))) quoted)
    | .number expression quoted => do
      let isRich := (← get).isRich
      let text ← expandText bound (if isRich then Rich.withoutQuotes expression else expression)
      let state ← get
      if isRich then do
        let value ← settled (calculate state text)
        pure (valueParts (toString value) quoted)
      else
        match Shell.Arithmetic.evaluate (numberIn state) text.toList with
        | .ok (value, bindings) =>
          for (name, result) in bindings.reverse do
            assignParameter name (toString result)
          pure (valueParts (toString value) quoted)
        | .error fault => giveUp (fault.message text)
    | .items _ => pure []
    | .channel reads body => do
      let state ← get
      let (opened, source, sink) := state.addChannel
      let (own, other) := if reads then (source, sink) else (sink, source)
      set { opened with kept := [(0, own)] :: state.kept }
      let child := (Rich.forOutput opened body).connect (if reads then 1 else 0) other
      discard (Run.fork child (concluded bound (runAll bound true body)))
      let parts ← Rich.openChannel (Rich.channelDescriptor state) own
      modify fun after => { after with kept := state.kept }
      pure parts

def outputOf : Nat → List Statement → Run Text.Bytes
  | 0, _ => Run.stall
  | bound + 1, body => do
    let state ← get
    match (if state.isRich then Rich.inputFile? body else none) with
    | some target => (means bound).contentOf target
    | none => do
      let (opened, source, sink) := state.addChannel
      set { opened with kept := [(0, source)] :: state.kept }
      let begun := if state.isRich then Rich.forOutput opened body
        else { opened.branch with shielded := false }
      let identity ← Run.fork (begun.connect 1 sink) (concluded bound (runAll bound true body))
      modify fun state => state.connect Utility.spareDescriptor source
      let content ← take Utility.spareDescriptor none
      if (← get).flooded then Run.stall
      modify fun after =>
        { after.disconnect Utility.spareDescriptor with kept := state.kept }
      let status ← if state.isRich then do pure (← Run.ending identity).toStatus
        else awaitProgram identity ""
      modify fun state => { state with outputStatus := status }
      if state.isRich then Rich.withoutNulls content else pure content

def expandParameter : Nat → String → Treatment → Word → Bool → Run (List Part)
  | 0, _, _, _, _ => Run.stall
  | bound + 1, name, treatment, word, quoted => do
    let state ← get
    let value? := parameterValue state name
    let isList := name = "@" || name = "*"
    let shown : List Part := match value? with
      | some value => if isList then argumentParts state name quoted else valueParts value quoted
      | none => if isList then (if name = "*" && quoted then [.mark] else [])
        else valueParts "" quoted
    let lacks (empty : Bool) : Bool := match value? with
      | none => true
      | some value => empty && value = ""
    let instead : Run (List Part) := do
      let parts ← expand bound (!quoted) word
      pure (if quoted then .mark :: parts else parts)
    match treatment with
    | .improper => giveUp "Bad substitution"
    | .plain =>
      if value?.isNone && !isList && state.options.contains 'u' then
        giveUp (name ++ ": parameter not set")
      else pure shown
    | .length => pure (valueParts (toString (value?.getD "").length) quoted)
    | .fallback empty => if lacks empty then instead else pure shown
    | .assignment empty =>
      if lacks empty then do
        let text ← expandText bound word
        if isParameterName name then assignParameter name text
        else giveUp (name ++ ": bad variable name")
        pure (valueParts text quoted)
      else pure shown
    | .alternative empty =>
      if lacks empty then pure (if quoted then [.mark] else []) else instead
    | .demand empty =>
      if lacks empty then do
        let text ← expandText bound word
        giveUp (name ++ ": " ++ (if text = "" then
          "parameter not set" ++ (if empty then " or null" else "") else text))
      else pure shown
    | .trimStart longest => do
      let pattern ← expandPattern bound word
      pure (trimmedParts state name quoted value? (trimStartJoined longest pattern)
        (Shell.trimStart longest pattern))
    | .trimEnd longest => do
      let pattern ← expandPattern bound word
      pure (trimmedParts state name quoted value? (trimEndJoined longest pattern)
        (Shell.trimEnd longest pattern))
    | _ => pure shown

def expandPattern : Nat → Word → Run (List Shell.Glyph)
  | 0, _ => Run.stall
  | bound + 1, word => do
    let parts ← expand bound false word
    pure (Shell.patternOf (wholeField (← get) parts))

def expandText : Nat → Word → Run String
  | 0, _ => Run.stall
  | bound + 1, word => do
    let parts ← expand bound false word
    pure (fieldText (wholeField (← get) parts))

def expandWord : Nat → Word → Run (List String)
  | 0, _ => Run.stall
  | bound + 1, word => do
    let parts ← expand bound false (homeWord (← get) false word)
    let state ← get
    let fields := splitFields (separators state) none false parts
    pure (if state.options.contains 'f' then fields.map fieldText
      else fields.flatMap (pathsOf state.files state.current))

def expandFields : Nat → Bool → List Word → Run (List String)
  | 0, _, _ => Run.stall
  | _ + 1, _, [] => pure []
  | bound + 1, assigning, word :: rest => do
    let fields ← match assigning, assignmentIn word with
      | true, some (name, value) => do
        let text ← expandText bound (homeWord (← get) true value)
        pure [String.ofList name ++ "=" ++ text]
      | _, _ => expandWord bound word
    let others ← expandFields bound assigning rest
    pure (fields ++ others)

def expandCommand : Nat → List Word → Run (List String)
  | 0, _ => Run.stall
  | _ + 1, [] => pure []
  | bound + 1, word :: rest => do
    let first ← expandWord bound word
    let others ← match first with
      | [] => expandCommand bound rest
      | name :: _ => expandFields bound (Builtin.assigning.contains name) rest
    pure (first ++ others)

def redirect : Nat → List Redirection → Run Bool
  | 0, _ => Run.stall
  | _ + 1, [] => pure true
  | bound + 1, .mk handle opening target :: rest => do
    let descriptor := match handle with
      | .number descriptor => descriptor
      | .named _ => 0
    match opening with
    | .document | .line => do
      let text? ← tryCatch (do
          let text ← expandText bound target
          pure (some text))
        fun departure => match departure with
          | .refused => pure none
          | other => throw other
      match text? with
      | none => pure false
      | some text => do
        let (next, number) := (← get).addStream (.pending (Text.octets text))
        set (next.connect descriptor number)
        redirect bound rest
    | .duplicate => do
      let text ← expandText bound target
      if text = "-" then do
        modify fun state => state.disconnect descriptor
        redirect bound rest
      else
        match text.toNat?.bind (← get).streamNumber? with
        | some number => do
          modify fun state => state.connect descriptor number
          redirect bound rest
        | none =>
          if text.length = 1 && Signal.isNumber text then do
            complain (text ++ ": Bad file descriptor")
            pure false
          else do
            complainAt (← get).reached "Syntax error: Bad fd number"
            throw .refused
    | _ => do
      let text ← expandText bound target
      match ← openPath (guarded (← get) opening) text with
      | .ok number => do
        modify fun state => state.connect descriptor number
        redirect bound rest
      | .error fault => do
        complain ("cannot " ++ redirectionVerb opening ++ " " ++ text ++ ": "
          ++ redirectionText fault opening)
        pure false

def isolated : Nat → State → List Statement → Run Nat
  | 0, _, _ => Run.stall
  | bound + 1, begun, body => do
    awaitProgram (← Run.fork begun (concluded bound (runAll bound true body))) ""

def concluded : Nat → Run Unit → Run Nat
  | 0, _ => Run.stall
  | bound + 1, body => do
    let status ← tryCatch (do
        body
        pure (← get).status)
      fun departure => match departure with
        | .exited status | .returned status => pure status
        | .refused => do pure (if (← get).isRich then 1 else 2)
        | .broken _ | .continued _ => do pure (← get).status
    runExitTrap bound status

/-- Runs statements. `final` tells that the shell has nothing to do after them, so that the last
program may take its place. -/
def runAll : Nat → Bool → List Statement → Run Unit
  | 0, _, _ => Run.stall
  | _ + 1, _, [] => pure ()
  | bound + 1, final, statement :: rest => do
    runStatement bound (final && rest.isEmpty) statement
    runAll bound final rest

def runShielded : Nat → List Statement → Run Unit
  | 0, _ => Run.stall
  | bound + 1, body => do
    let shielded := (← get).shielded
    modify fun state => { state with shielded := true }
    runAll bound false body
    modify fun state => { state with shielded }

/-- Starts the stages of a pipeline beside each other, each of which reads what the one before
writes. `source` is the stream that the first of them reads, if it is not what comes in. -/
def startStages : Nat → (State → State) → Option Nat → List Statement → Run (List Nat)
  | 0, _, _, _ => Run.stall
  | _ + 1, _, _, [] => pure []
  | bound + 1, begun, source?, stage :: rest => do
    let state ← get
    let read (child : State) : State := source?.elim child (child.connect 0)
    let body := concluded bound (runStatement bound true stage)
    if rest.isEmpty then do
      let identity ← Run.fork (read (begun state)) body
      pure [identity]
    else do
      let (opened, source, sink) := state.addChannel
      set { opened with kept := [(0, source)] :: opened.kept }
      let child := (read (begun opened)).connect 1 sink
      let identity ← Run.fork child body
      let others ← startStages bound begun (some source) rest
      modify fun after => { after with kept := state.kept }
      pure (identity :: others)

def runLoop : Nat → Bool → Nat → List Statement → List Statement → Run Unit
  | 0, _, _, _, _ => Run.stall
  | bound + 1, awaited, last, condition, body => do
    let (holds, stays) ← runTurn do
      runShielded bound condition
      pure (((← get).status = 0) = awaited)
    if !stays then pure ()
    else if !holds then setStatus last
    else
      let (_, goesOn) ← runTurn do
        runAll bound false body
        pure true
      if goesOn then runLoop bound awaited (← get).status condition body else pure ()

def runEach : Nat → String → List String → List Statement → Run Unit
  | 0, _, _, _ => Run.stall
  | _ + 1, _, [], _ => pure ()
  | bound + 1, name, word :: rest, body => do
    assignParameter name word
    let (_, goesOn) ← runTurn do
      runAll bound false body
      pure true
    if goesOn then runEach bound name rest body else pure ()

def runArms : Nat → Bool → List Char → List Shell.Arm → Run Unit
  | 0, _, _, _ => Run.stall
  | _ + 1, _, _, [] => setStatus 0
  | bound + 1, final, text, .mk patterns body _ :: rest => do
    let fits ← anyFits bound text patterns
    if fits then do
      setStatus 0
      runAll bound final body
    else runArms bound final text rest

def anyFits : Nat → List Char → List Word → Run Bool
  | 0, _, _ => Run.stall
  | _ + 1, _, [] => pure false
  | bound + 1, text, word :: rest => do
    let pattern ← expandPattern bound word
    if Shell.fits pattern text then pure true else anyFits bound text rest

def runTraps : Nat → Run Unit
  | 0 => Run.stall
  | bound + 1 => do
    let state ← get
    let arrived := state.arrived.mergeSort
    if !arrived.isEmpty then do
      set { state with arrived := [] }
      for number in arrived.eraseDups do
        let status := (← get).status
        match Builtin.trapOf (← get) number with
        | some action =>
          if state.isRich then (means bound).runText action.toList state.line state.extra.origin
          else runInside bound action
        | none => pure ()
        setStatus status

def runStatement : Nat → Bool → Statement → Run Unit
  | 0, _, _ => Run.stall
  | bound + 1, final, statement => do
    Run.yield
    let state ← get
    if state.options.contains 'n' then return ()
    if state.isRich then performRich bound final statement else perform bound final statement
    runTraps bound

def performShared : Nat → Bool → Statement → Run Unit
  | 0, _, _ => Run.stall
  | bound + 1, final, statement => do
    match statement with
    | .andThen first second => do
      runShielded bound [first]
      if (← get).status = 0 then runStatement bound final second else pure ()
    | .orElse first second => do
      runShielded bound [first]
      if (← get).status = 0 then pure () else runStatement bound final second
    | .group body => runAll bound final body
    | .branch condition body otherwise => do
      runShielded bound condition
      if (← get).status = 0 then runAll bound final body
      else if otherwise.isEmpty then setStatus 0
      else runAll bound final otherwise
    | .loop awaited condition body => do
      let loops := (← get).loops
      modify fun state => { state with loops := loops + 1 }
      runLoop bound awaited 0 condition body
      modify fun state => { state with loops }
    | _ => pure ()

def performRich : Nat → Bool → Statement → Run Unit
  | 0, _, _ => Run.stall
  | bound + 1, final, statement => do
    let means := means bound
    match statement with
    | .simple line assignments words redirections =>
      means.simple final line assignments words redirections
    | .pipeline negated stages => means.pipeline negated stages
    | .background body => means.background body
    | .subshell body => means.subshell body
    | .each line name words body => means.each line name words body
    | .menu line name words body => means.menu line name words body
    | .counted line start check step body => means.counted line start check step body
    | .choice line word arms => means.choice final line word arms
    | .define name body => Rich.define name body
    | .test line test => means.test line test
    | .calculation line expression => means.calculation line expression
    | .timed portable body => means.timed portable body
    | .redirected body line redirections => means.redirected body line redirections
    | shared => performShared bound final shared

def perform : Nat → Bool → Statement → Run Unit
  | 0, _, _ => Run.stall
  | bound + 1, final, statement => do
    match statement with
    | .simple line assignments words redirections => do
      modify fun state => { state with line }
      runSimple bound final (assignments.map valueOf) words redirections
      checkFailure
    | .pipeline negated stages => do
      let shielded := (← get).shielded
      if negated then modify fun state => { state with shielded := true }
      match stages with
      | [stage] => runStatement bound false stage
      | _ => do
        let identities ← startStages bound State.branch none stages
        let mut status := 0
        for identity in identities do
          status ← awaitProgram identity ""
        setStatus status
      modify fun state => { state with shielded }
      if negated then setStatus (if (← get).status = 0 then 1 else 0)
      else checkFailure
    | .background body => do
      let (opened, null) := (← get).addStream (.device .null)
      set opened
      let stages := match body with
        | .pipeline false stages => stages
        | _ => [body]
      let identities ← startStages bound State.aside (some null) stages
      Builtin.addJob (identities.getLast?.getD 0) ""
      setStatus 0
    | .subshell body => do
      let state ← get
      if final && !state.isProvided then do
        set state.branch
        runAll bound true body
      else do
        let status ← isolated bound state.branch body
        setStatus status
      checkFailure
    | .each _ name words body => do
      let fields ← match words with
        | some words => expandFields bound false words
        | none => do pure (← get).arguments
      let loops := (← get).loops
      modify fun state => { state with loops := loops + 1, status := 0 }
      runEach bound name fields body
      modify fun state => { state with loops }
    | .choice _ word arms => do
      let text ← expandText bound word
      runArms bound final text.toList arms
    | .define name body => do
      modify fun state => { state with
        functions := (name, body) :: state.functions.filter (·.1 ≠ name), status := 0 }
    | .redirected body line redirections => do
      modify fun state => { state with line }
      withDescriptors redirections do
        if ← redirect bound redirections then runStatement bound false body else setStatus 2
    | shared => performShared bound final shared

def assignAll : Nat → List (String × Word) → Run (List String)
  | 0, _ => Run.stall
  | _ + 1, [] => pure []
  | bound + 1, (name, word) :: rest => do
    let text ← expandText bound (homeWord (← get) true word)
    assignParameter name text
    let others ← assignAll bound rest
    pure ((name ++ "=" ++ text) :: others)

def showTrace : Nat → Option Nat → List String → Run Unit
  | 0, _, _ => Run.stall
  | bound + 1, number, words => do
    let state ← get
    if state.options.contains 'x' then
      set { state with options := state.options.filter (· ≠ 'x') }
      let opening ← match Shell.documentWord .plain ((state.value? "PS4").getD "").toList with
        | .ok word => expandText bound word
        | .error _ => pure ""
      match number with
      | some number => do
        modify fun state => state.connect 2 number
        writeText 2 (opening ++ " ".intercalate words ++ "\n")
      | none => pure ()
      modify fun after => { after with options := state.options, descriptors := state.descriptors }

def runSimple : Nat → Bool → List (String × Word) → List Word → List Redirection → Run Unit
  | 0, _, _, _, _ => Run.stall
  | bound + 1, final, assignments, words, redirections => do
    modify fun state => { state with outputStatus := 0 }
    let fields ← expandCommand bound words
    let special := Builtin.specials.contains (fields.headD "")
    if fields = ["exec"] then
      if ← redirect bound redirections then
        runPrepared bound false assignments fields (← get).descriptors
      else throw .refused
    else
      let descriptors := (← get).descriptors
      withDescriptors redirections do
        if ← redirect bound redirections then
          runPrepared bound final assignments fields descriptors
        else do
          discard (assignAll bound assignments)
          if special then throw .refused else setStatus 2

def runPrepared : Nat → Bool → List (String × Word) → List String → List (Nat × Nat) → Run Unit
  | 0, _, _, _, _ => Run.stall
  | bound + 1, final, assignments, fields, outer => do
    let before ← get
    let name := fields.headD ""
    let arguments := fields.drop 1
    let special := Builtin.specials.contains name
    let isLasting := fields.isEmpty || special
    let assigned ← assignAll bound assignments
    if !isLasting then
      modify fun state => assignments.foldl (fun state entry => state.exportName entry.1) state
    showTrace bound (outer.lookup 2) (assigned ++ fields)
    let putBack : Run Unit := if isLasting then pure () else
      modify fun state =>
        assignments.foldl (fun state entry => state.putBack entry.1 (before.find entry.1)) state
    if fields.isEmpty then setStatus (← get).outputStatus
    else if special then do
      let status ← runBuiltin bound final name arguments
      setStatus status
    else do
      let function := (before.functions.find? fun entry => entry.1 = name).map Prod.snd
      let isRegular := function.isNone && Builtin.regulars.contains name
      let status ← tryCatch (match function with
        | some body => runFunction bound body arguments
        | none =>
          if isRegular then runBuiltin bound final name arguments
          else runNamed bound final name arguments)
        fun departure => do
          match departure, isRegular with
          | .refused, true => do
            modify fun state => { state with
              shielded := before.shielded, loops := before.loops, reached := before.reached }
            pure 2
          | other, _ => throw other
      putBack
      setStatus status

def runFunction : Nat → Statement → List String → Run Nat
  | 0, _, _ => Run.stall
  | bound + 1, body, arguments => do
    let outer ← get
    if deepestCall ≤ outer.calls then Run.finish (.signal 11)
    set { outer with
      arguments, locals := some [], place := .first, loops := 0, calls := outer.calls + 1 }
    let leave : Run Unit := modify fun state =>
      let back := (state.locals.getD []).foldl
        (fun state entry => state.putBack entry.1 entry.2) state
      { back with
        arguments := outer.arguments
        locals := outer.locals
        place := outer.place
        calls := outer.calls
        loops := outer.loops }
    let status ← tryCatch (do
        runStatement bound false body
        pure (← get).status)
      fun departure => match departure with
        | .returned status => pure status
        | other => do
          leave
          throw other
    leave
    pure status

def runInside : Nat → String → Run Unit
  | 0, _ => Run.stall
  | bound + 1, text => do
    let reached := (← get).reached
    runText bound (Shell.Cursor.start .plain text.toList)
    modify fun state => { state with reached }

def runText : Nat → Shell.Cursor → Run Unit
  | 0, _ => Run.stall
  | bound + 1, cursor => do
    let state ← get
    let here := if state.isRich then Rich.ready state cursor
      else { cursor with aliases := state.aliases }
    match Shell.nextLine here with
    | .ok none => pure ()
    | .ok (some (statements, rest)) => do
      modify fun state => { state with reached := rest.line }
      if state.isRich then do
        Rich.noteOpenDocuments rest.openDocuments
        Rich.guardedLine (runAll bound false statements)
      else runAll bound false statements
      runText bound { rest with openDocuments := [] }
    | .error located =>
      if state.isRich then Rich.reportFault located
      else do
        modify fun state => { state with line := located.line }
        giveUp located.fault.message

/-- Runs a utility of the shell, which complains in its own name. That something could not be
written is part of its status. -/
def runBuiltin : Nat → Bool → String → List String → Run Nat
  | 0, _, _, _ => Run.stall
  | bound + 1, final, name, arguments => do
    let outer := (← get).speaker
    let speaker := if name = "command" then outer else some name
    let status ← speakingAs speaker (performBuiltin bound final name arguments)
    let state ← get
    if state.unwritten.isNone then pure status
    else do
      set { state with unwritten := none }
      speakingAs speaker (complain (name ++ ": I/O error"))
      pure (status ||| 1)

def performBuiltin : Nat → Bool → String → List String → Run Nat
  | 0, _, _, _ => Run.stall
  | bound + 1, final, name, arguments => do
    let state ← get
    match name with
    | "exit" | "return" =>
      let status ← match arguments with
        | [] => pure state.status
        | word :: _ => Builtin.number name word
      throw (if name = "exit" then .exited (status % 256) else .returned status)
    | "break" | "continue" =>
      let levels ← match arguments with
        | [] => pure 1
        | word :: _ => Builtin.number name word
      if levels = 0 then refuse name ("Illegal number: " ++ arguments.headD "")
      else if state.loops = 0 then pure 0
      else
        let reached := min levels state.loops
        setStatus 0
        throw (if name = "break" then .broken reached else .continued reached)
    | "eval" => do
      setStatus 0
      runInside bound (" ".intercalate arguments)
      pure (← get).status
    | "." =>
      match arguments with
      | [] => pure 0
      | path :: _ => do
        let content ← sourced path
        setStatus 0
        putting (fun state => { state with shielded := false })
          (fun after => { after with shielded := state.shielded, reached := state.reached }) do
          tryCatch (speakingAs (some path) (do
              runText bound (Shell.Cursor.start .plain (Text.charactersOf content))
              pure (← get).status))
            fun departure => match departure with
              | .returned status => pure status
              | other => throw other
    | "command" => do
      let (letters, operands) ← Builtin.letters "command" ['p', 'v', 'V'] arguments
      match operands with
      | [] => pure 0
      | word :: rest =>
        if letters.contains 'v' || letters.contains 'V' then
          Builtin.describe (letters.getLast? = some 'V') word
        else if Builtin.all.contains word then runBuiltin bound final word rest
        else runNamed bound final word rest
    | "exec" =>
      match arguments with
      | [] => pure 0
      | word :: rest => do
        let state := { state with parameters := Parameter.byDrawer state.parameters }
        match (search state word).bind fun path => resolved state true path (word :: rest) with
        | .ok found => do
          set state.afresh
          Run.replace (runResolved bound found)
        | .error fault => do
          complain (word ++ ": " ++ startText fault)
          throw (.exited (startStatus fault))
    | _ => Builtin.run name arguments

/-- Runs a program that a shell finds by its name. At the end of a shell that arranged for nothing
more, it runs in the place of that. -/
def runNamed : Nat → Bool → String → List String → Run Nat
  | 0, _, _, _ => Run.stall
  | bound + 1, final, name, arguments => do
    modify fun state => { state with parameters := Parameter.byDrawer state.parameters }
    let state ← get
    match (search state name).bind fun path => resolved state true path (name :: arguments) with
    | .ok found =>
      if final && !state.isProvided then do
        set state.afresh
        Run.replace (runResolved bound found)
      else do awaitProgram (← Run.fork state.afresh (runResolved bound found)) ""
    | .error fault => do
      complain (name ++ ": " ++ (if name = "" then FileFault.wording .denied else startText fault))
      pure (startStatus fault)

def runResolved : Nat → Resolved → Run Nat
  | 0, _ => Run.stall
  | bound + 1, found => do
    Run.await ⟨.nothing, some ((← get).clock + startTime), false⟩
    match found with
    | .plain path content words => do
      modify fun state => { state with title := path, arguments := words.drop 1 }
      beginShell
      concluded bound (runText bound (Shell.Cursor.start .plain (Text.charactersOf content)))
    | .utility name words => do
      let title := words.headD name
      modify fun state => { state with title, arguments := words.drop 1 }
      match name with
      | "sh" | "dash" => concluded bound (runShell bound title (words.drop 1))
      | "bash" => concluded bound (runRichShell bound title (words.drop 1))
      | _ => Utility.run (launcher bound) name (words.drop 1)

def launcher : Nat → Utility.Launcher
  | 0 => ⟨fun _ => Run.stall, fun _ => Run.stall⟩
  | bound + 1 => {
    become := fun words => do
      let state ← get
      match resolvedByName state words with
      | .error fault => pure fault
      | .ok found => do
        set state.afresh
        Run.replace (runResolved bound found)
    start := fun words => do
      let state ← get
      match resolvedByName state words with
      | .error fault => pure (.error fault)
      | .ok found => do
        let identity ← Run.fork state.afresh (runResolved bound found)
        pure (.ok identity) }

def means : Nat → Rich.Means
  | 0 => .exhausted
  | bound + 1 => {
    expand := expand bound
    run := runAll bound
    read := runText bound
    start := runResolved bound
    stages := startStages bound
    isolated := isolated bound }

def runExitTrap : Nat → Nat → Run Nat
  | 0, _ => Run.stall
  | bound + 1, status => do
    match Builtin.trapOf (← get) 0 with
    | none => pure status
    | some action => do
      setStatus status
      modify fun state => { state with traps := state.traps.filter fun trap => trap.1 ≠ 0 }
      tryCatch (do
          if (← get).isRich then (means bound).runText action.toList 1 none
          else runInside bound action
          pure status)
        fun departure => match departure with
          | .exited last | .returned last => pure last
          | .refused => pure 2
          | .broken _ | .continued _ => pure status

def runShell : Nat → String → List String → Run Unit
  | 0, _, _ => Run.stall
  | bound + 1, title, arguments => do
    let fail (text : String) : Run Unit := do
      writeText 2 (title ++ ": 0: " ++ text ++ "\n")
      throw .refused
    let runContent (content : Text.Bytes) : Run Unit :=
      runText bound (Shell.Cursor.start .plain (Text.charactersOf content))
    match shellOptions arguments with
    | .error text => fail text
    | .ok (letters, operands) => do
      modify fun state => { state with
        title
        arguments := operands
        options := letters.filter optionOrder.contains }
      beginShell
      match letters.contains 'c', operands with
      | true, [] => fail "-c requires an argument"
      | true, text :: rest => do
        modify fun state => { state with
          title := rest.headD title
          arguments := rest.drop 1
          options := state.options.filter (· ≠ 's') }
        runText bound (Shell.Cursor.start .plain text.toList)
      | false, [] => do runContent (← take 0 none)
      | false, path :: rest =>
        if letters.contains 's' then do runContent (← take 0 none)
        else
          let state ← get
          match state.files.find state.current path with
          | .ok (_, .file content) => do
            modify fun state => { state with title := path, arguments := rest }
            runContent content
          | .ok (_, .directory) => fail ("cannot open " ++ path ++ ": Is a directory")
          | _ => fail ("cannot open " ++ path ++ ": No such file")

def runRichShell : Nat → String → List String → Run Unit
  | 0, _, _ => Run.stall
  | bound + 1, title, arguments => do
    let fail (text : String) (status : Nat) : Run Unit := do
      writeText 2 text
      throw (.exited status)
    let runContent (characters : List Char) : Run Unit :=
      runText bound (Shell.Cursor.start .rich (Rich.withLineEnd characters))
    match Rich.invoked title (arguments.length + 1) arguments .nothing with
    | .error text => fail text 2
    | .ok invocation => do
      Rich.begin title
      Rich.apply invocation
      match invocation.tells, invocation.givesText, invocation.operands with
      | some text, _, _ => do
        writeText 1 text
        setStatus 0
      | none, true, [] => fail (title ++ ": -c: option requires an argument\n") 2
      | none, true, text :: rest => do
        Rich.takeText text (rest.headD title) (rest.drop 1)
        runContent text.toList
      | none, false, operands =>
        match (if invocation.readsInput then [] else operands) with
        | [] => do
          Rich.takeInput operands
          runContent (Text.charactersOf (← take 0 none))
        | path :: rest => do
          let state ← get
          match state.files.find state.current path with
          | .ok (_, .file content) => do
            Rich.takeFile path rest
            runContent (Text.charactersOf content)
          | .ok (_, .directory) => fail (path ++ ": " ++ path ++ ": Is a directory\n") 126
          | .ok (_, .device _) => pure ()
          | .ok _ => fail (path ++ ": " ++ path ++ ": cannot execute binary file\n") 126
          | .error fault =>
            fail (title ++ ": " ++ path ++ ": " ++ fault.wording ++ "\n")
              (if fault = .denied then 126 else 127)

end

end ChartManifests.Program
