import ChartManifests.Program.Assigning
import ChartManifests.Program.Beginning
import ChartManifests.Program.Enclosing
import ChartManifests.Program.Rich.Plain
import ChartManifests.Program.Rich.Redirecting
/-!
Commands of the rich shell: assignments, functions, programs, and the utilities of the shell that
run something.
-/

namespace ChartManifests.Program.Rich

open Shell (Assignment Element Redirection Statement Word)
open Shell.Calculation (Place)

def Means.runText (means : Means) (text : List Char) (line : Nat) (origin : Option String) :
    Run Unit := do
  let before ← get
  let outer := before.extra
  putting
    (fun state => state.withExtras fun extras =>
      { extras with origin, shift := 0, level := outer.level + 1 })
    (fun state =>
      let back := { state with reached := before.reached, line := before.line }
      back.withExtras fun extras =>
        { extras with origin := outer.origin, shift := outer.shift, level := outer.level })
    (means.read { Shell.Cursor.start .rich (withLineEnd text) with line, firstLine := line })

/-- Runs what was arranged for something that happens to the shell; the status stays as it is. What
happens meanwhile does not count. -/
def Means.happen (means : Means) (number : Nat) : Run Unit := do
  let state ← get
  match Builtin.trapOf state number with
  | none | some "" => pure ()
  | some action =>
    let others (traps : List (Nat × String)) : List (Nat × String) :=
      traps.filter fun trap => trap.1 ≠ number
    putting (fun state => { state with traps := others state.traps })
      (fun after => { after with
        status := state.status
        traps := if (Builtin.trapOf after number).isSome then after.traps
          else (number, action) :: after.traps })
      (means.runText action.toList state.line state.extra.origin)

/-- Goes on behind a command that may have failed: if its failure counts, what was arranged for that
is run, and the shell ends if it was asked to. -/
def Means.judge (means : Means) : Run Unit := do
  let state ← get
  if state.status ≠ 0 && !state.shielded then do
    means.happen failure
    if (← get).options.contains 'e' then throw (.exited state.status)

def noteStatuses (statuses : List Nat) : Run Unit :=
  modify fun state => state.withExtras fun extras => { extras with statuses }

def noteLastWord (lastWord : String) : Run Unit :=
  modify fun state => state.withExtras fun extras => { extras with lastWord }

def Means.traceOpening (means : Means) : Run String := do
  let state ← get
  let text := (state.value? "PS4").getD ""
  let opening ← match Shell.documentWord .rich text.toList with
    | .ok word => means.text word
    | .error _ => pure ""
  match opening.toList with
  | first :: rest => do
    pure (String.ofList (List.replicate (state.extra.level) first ++ rest))
  | [] => pure ""

def Means.trace (means : Means) (text : String) : Run Unit := do
  let state ← get
  if state.options.contains 'x' then do
    set { state with options := state.options.filter (· ≠ 'x') }
    let opening ← means.traceOpening
    modify fun after => { after with options := state.options }
    writeText 2 (opening ++ text ++ "\n")

def Means.given (means : Means) : List Element → Run (List Given)
  | [] => pure []
  | .mk (some subscript) appends value :: rest => do
    let place ← means.text subscript
    let text ← means.text (homeWord (← get) true value)
    let others ← means.given rest
    pure (⟨some place, appends, text⟩ :: others)
  | .mk none _ value :: rest => do
    let fields ← means.fields value
    let others ← means.given rest
    pure (fields.map (fun field => ⟨none, false, field⟩) ++ others)

def assignmentSign (appends : Bool) : String := if appends then "+=" else "="

def listText (elements : List Element) : String :=
  let shown : Element → String
    | .mk subscript appends value =>
      (subscript.elim "" fun place =>
        "[" ++ Shell.displayWord place ++ "]" ++ assignmentSign appends)
        ++ Shell.displayWord value
  "(" ++ " ".intercalate (elements.map shown) ++ ")"

def declaredListText (items : List Given) : String :=
  "(" ++ " ".intercalate (items.map fun item =>
    (item.subscript.elim "" fun place => "[" ++ Requoting.single place ++ "]=")
      ++ Requoting.single item.value) ++ ")"

def tried (result : Except Shell.Calculation.Fault State) :
    Run (Option Shell.Calculation.Fault) := do
  match result with
  | .ok state => do
    set state
    pure none
  | .error fault => pure (some fault)

def Means.assignOne (means : Means) : Assignment → Run (Option Shell.Calculation.Fault)
  | .mk name subscript appends value => do
    match value with
    | [.items elements] => do
      let items ← means.given elements
      means.trace (name ++ assignmentSign appends ++ listText elements)
      tried (assignList (← get) name appends items)
    | _ => do
      let text ← means.text (homeWord (← get) true value)
      let key ← match subscript with
        | some word => do pure (some (← means.text word))
        | none => pure none
      let place : Place := ⟨name, key⟩
      means.trace (place.text ++ assignmentSign appends
        ++ (if text = "" then "" else Requoting.traced text))
      tried ((assignPlace (← get) place appends text))

def Means.assignAll (means : Means) : List Assignment → Run Unit
  | [] => pure ()
  | assignment :: rest => do
    match ← means.assignOne assignment with
    | none => means.assignAll rest
    | some fault => abandon fault

def nameOfAssignment : Assignment → String
  | .mk name _ _ _ => name

def Means.assignForCommand (means : Means) : List Assignment → Run Unit
  | [] => pure ()
  | assignment :: rest => do
    match ← means.assignOne assignment with
    | none => modify fun state => state.exportName (nameOfAssignment assignment)
    | some fault => complain fault.message
    means.assignForCommand rest

structure ListOperand where
  name : String
  appends : Bool
  items : List Given

structure Command where
  fields : List String
  lists : List ListOperand

def hasAssignmentForm : Word → Bool
  | .text characters false :: rest =>
    let name := Shell.nameOf characters
    match characters.drop name.length with
    | '=' :: _ | '+' :: '=' :: _ => !name.isEmpty
    | '[' :: _ =>
      !name.isEmpty && (characters.contains '=' || rest.any fun piece => match piece with
        | .text more false => more.contains '='
        | _ => false)
    | _ => false
  | _ => false

def Means.operands (means : Means) : List Word → Run Command
  | [] => pure ⟨[], []⟩
  | word :: rest => do
    match word with
    | [.text sign false, .items elements] => do
      let name := String.ofList (Shell.nameOf sign)
      let items ← means.given elements
      means.trace (name ++ assignmentSign (sign.contains '+') ++ declaredListText items)
      let others ← means.operands rest
      pure ⟨name :: others.fields, ⟨name, sign.contains '+', items⟩ :: others.lists⟩
    | _ => do
      let fields ←
        if hasAssignmentForm word then
          match assignmentIn word with
          | some (name, value) => do
            let text ← means.text (homeWord (← get) true value)
            pure [String.ofList name ++ "=" ++ text]
          | none => do pure [← means.text word]
        else means.fields word
      let others ← means.operands rest
      pure { others with fields := fields ++ others.fields }

def Means.command (means : Means) : List Word → Run Command
  | [] => pure ⟨[], []⟩
  | word :: rest => do
    let first ← means.fields word
    match first with
    | [] => means.command rest
    | name :: _ =>
      if Shell.declaringNames.contains name && !(Shell.isNamed ["command", "builtin"] word) then do
        let others ← means.operands rest
        pure { others with fields := first ++ others.fields }
      else do
        let others ← rest.mapM means.fields
        pure ⟨first ++ others.flatten, []⟩

def assignDeclared (operand : ListOperand) : Run Unit := do
  let state ← get
  let name := state.referred 10 operand.name
  let isFixed := state.isFixed name
  let opened := if isFixed then state.change name fun parameter => { parameter with fixed := false }
    else state
  match assignList opened name operand.appends operand.items with
  | .ok after =>
    set (if isFixed then after.change name fun parameter => { parameter with fixed := true }
      else after)
  | .error fault => abandon fault

def hiddenTraps (state : State) : List (Nat × String) :=
  state.traps.filter fun trap =>
    (trap.1 = failure && !state.options.contains 'E')
      || ((trap.1 = debugging || trap.1 = comingBack) && !state.options.contains 'T')

def withTraps (hidden traps : List (Nat × String)) : List (Nat × String) :=
  hidden ++ traps.filter fun trap => !hidden.any fun other => other.1 = trap.1

def Means.call (means : Means) (name : String) (body : Statement) (arguments : List String) :
    Run Nat := do
  let outer ← get
  if deepestCall ≤ outer.calls then Run.finish (.signal 11)
  let source := (outer.extra.homes.lookup name).getD "environment"
  let hidden := hiddenTraps outer
  set ({ outer with
    arguments
    locals := some []
    loops := 0
    calls := outer.calls + 1
    traps := outer.traps.filter fun trap => !hidden.contains trap }.withExtras fun extras =>
      { extras with shift := 0, frames := ⟨name, outer.line, source⟩ :: extras.frames })
  let leave : Run Unit := modify fun state =>
    let back := (state.locals.getD []).foldl
      (fun state entry => state.putBack entry.1 entry.2) state
    { back with
      arguments := outer.arguments
      locals := outer.locals
      calls := outer.calls
      loops := outer.loops
      line := outer.line
      traps := withTraps hidden back.traps }.withExtras fun extras =>
        { extras with shift := outer.extra.shift, frames := outer.extra.frames }
  let status ← tryCatch (do
      means.run false [body]
      pure (← get).status)
    fun departure => match departure with
      | .returned status => pure status
      | other => do
        leave
        throw other
  modify fun state => { state with status }
  means.happen comingBack
  leave
  pure status

def inOrder (parameters : List Parameter) : List Parameter :=
  parameters.mergeSort fun left right => Content.drawer left.name ≤ Content.drawer right.name

def begunFrom (state : State) (path : String) : State :=
  let named := { Parameter.unknown "_" with content := some (.text path), exported := true }
  { state with parameters := inOrder (state.parameters.filter (·.name ≠ "_")) ++ [named] }

def startFault (state : State) (path : String) (fault : FileFault) : String × Nat :=
  match startable state.files state.current path, fault with
  | .ok _, .missing | .ok _, .notDirectory =>
    (path ++ ": cannot execute: required file not found", 127)
  | .ok _, fault => (path ++ ": bad interpreter: " ++ fault.wording, 126)
  | .error _, fault =>
    match state.files.find state.current path with
    | .ok (_, .directory) => (path ++ ": " ++ FileFault.wording .isDirectory, 126)
    | .error .missing => (path ++ ": " ++ FileFault.wording .missing, 127)
    | .error other => (path ++ ": " ++ other.wording, 126)
    | .ok _ => (path ++ ": " ++ fault.wording, 126)

def findProgram (name : String) : Run (Except (String × Nat) String) := do
  let state ← get
  if hasSlash name then pure (.ok name)
  else
    match state.extra.remembered.find? fun entry => entry.1 = name with
    | some (_, path, uses) => do
      remember name (some path) (uses + 1)
      pure (.ok path)
    | none =>
      match search state name with
      | .ok path => do
        remember name (some path) 1
        pure (.ok path)
      | .error .denied =>
        let directories := ((state.value? "PATH").map fun path =>
          (Text.splitAt ':' path.toList).map String.ofList).getD []
        let paths := directories.map fun directory =>
          if directory = "" then "./" ++ name else below directory name
        let path := (paths.find? fun path => match state.files.find state.current path with
          | .ok (_, .file _) => true
          | _ => false).getD name
        pure (.error (path ++ ": " ++ FileFault.wording .denied, 126))
      | .error _ => pure (.error (name ++ ": command not found", 127))

def programAt (state : State) (path : String) (words : List String) :
    Except (String × Nat) Resolved :=
  match resolved state true path words with
  | .ok (.plain path _ words) =>
    .ok (.utility "bash" ((state.value? "BASH").getD "bash" :: path :: words.drop 1))
  | .ok found => .ok found
  | .error fault => .error (startFault state path fault)

def Means.program (means : Means) (final : Bool) (name : String) (arguments : List String) :
    Run Nat := do
  let fail (fault : String × Nat) : Run Nat := do
    complain fault.1
    pure fault.2
  match ← findProgram name with
  | .error fault => fail fault
  | .ok path => do
    let state ← get
    match programAt state path (name :: arguments) with
    | .error fault => fail fault
    | .ok found => do
      let begun := (begunFrom state path).afresh
      if final && !state.isProvided then do
        set begun
        Run.replace (means.start found)
      else
        awaitProgram (← Run.fork begun (means.start found)) (" ".intercalate (name :: arguments))

def wholePath (state : State) (path : String) : String :=
  match path.toList with
  | '/' :: _ => path
  | '.' :: '/' :: rest => below state.path (String.ofList rest)
  | _ => below state.path path

def Means.become (means : Means) (arguments : List String) : Deed Nat := do
  let (given, operands) ← options "exec" ['c', 'l'] ['a'] arguments
  match operands with
  | [] => pure 0
  | name :: rest => do
    let state ← get
    let title := ((given.find? (·.1 = 'a')).map Prod.snd).getD name
    let leave (status : Nat) : Deed Nat := do
      if state.isOn "execfail" then pure status else (throw (Departure.exited status) : Run Nat)
    match ← findProgram name with
    | .error (text, status) => do
      complain (if status = 127 then "exec: " ++ name ++ ": not found" else text)
      leave status
    | .ok found => do
      let path := wholePath state found
      match programAt state path (title :: rest) with
      | .error (text, status) => do
        let isThere := (startable state.files state.current path).toOption.isSome
        let isStanding := (state.files.locate state.current path).toOption.any fun location =>
          (state.files.standing? location).isSome
        complain text
        if !isThere && isStanding then
          blame "exec" (path ++ ": cannot execute: "
            ++ String.ofList (text.toList.drop (path.length + 2)))
        leave status
      | .ok found => do
        let emptied := if given.any (·.1 = 'c') then { state with parameters := [] } else state
        set (begunFrom emptied path).afresh
        (Run.replace (means.start found) : Run Nat)

def readable? (state : State) (path : String) : Option (String × Text.Bytes) :=
  let directories := if hasSlash path || !state.isOn "sourcepath" then [] else
    (((state.value? "PATH").map fun paths =>
      (Text.splitAt ':' paths.toList).map String.ofList).getD [])
  let places := directories.map (fun directory => below directory path) ++ [path]
  places.findSome? fun place => match state.files.find state.current place with
    | .ok (_, .file content) => some (place, content)
    | .ok (_, .device _) => some (place, [])
    | _ => none

def Means.source (means : Means) (name : String) (arguments : List String) : Deed Nat := do
  let (_, operands) ← letters name [] arguments
  match operands with
  | [] => do
    blame name "filename argument required"
    misused name
  | path :: rest => do
    let state ← get
    match readable? state path with
    | none =>
      match state.files.find state.current path with
      | .ok (_, .directory) => quit name (path ++ ": is a directory") 1
      | .ok _ => do
        complain (path ++ ": " ++ FileFault.wording .denied)
        throw 1
      | .error fault => do
        complain (path ++ ": " ++ fault.wording)
        throw 1
    | some (place, content) => do
      let hidden := if state.options.contains 'T' then [] else
        state.traps.filter fun trap => trap.1 = debugging
      let given := if rest.isEmpty then state.arguments else rest
      let action : Run Nat := putting
        (fun state => { state with
            arguments := given
            traps := state.traps.filter fun trap => !hidden.contains trap
            status := 0 }.withExtras fun extras =>
              { extras with frames := ⟨"source", state.line, place⟩ :: extras.frames })
        (fun after => { after with
            arguments := if after.arguments = given then state.arguments else after.arguments
            traps := withTraps hidden after.traps }.withExtras fun extras =>
              { extras with frames := state.extra.frames })
        (do
          let status ← tryCatch (do
              means.runText (Text.charactersOf content) 1 none
              pure (← get).status)
            fun departure => match departure with
              | .returned status => pure status
              | other => throw other
          modify fun state => { state with status }
          means.happen comingBack
          pure status)
      action

def statusOf (name : String) (arguments : List String) : Deed Nat := do
  match (if arguments.head? = some "--" then arguments.drop 1 else arguments) with
  | [] => pure (← get).status
  | word :: rest =>
    match integer? word with
    | none => do
      blame name (word ++ ": numeric argument required")
      pure 2
    | some value =>
      if rest.isEmpty then pure (Int.emod value 256).toNat
      else do
        blame name "too many arguments"
        (throw Departure.refused : Run Nat)

def leaveLoops (name : String) (arguments : List String) : Deed Nat := do
  let state ← get
  if state.loops = 0 then do
    blame name "only meaningful in a `for', `while', or `until' loop"
    pure 0
  else
    match arguments with
    | _ :: _ :: _ => do
      blame name "too many arguments"
      (throw Departure.refused : Run Nat)
    | _ => do
      let levels ← match arguments.head? with
        | none => pure (1 : Int)
        | some word =>
          match integer? word with
          | some levels => pure levels
          | none => do
            blame name (word ++ ": numeric argument required")
            (throw (Departure.exited 128) : Run Int)
      if levels ≤ 0 then do
        blame name (arguments.headD "" ++ ": loop count out of range")
        modify fun state => { state with status := 1 }
        (throw (Departure.broken state.loops) : Run Nat)
      else do
        let reached := min levels.toNat state.loops
        modify fun state => { state with status := 0 }
        (throw (if name = "break" then Departure.broken reached else .continued reached) : Run Nat)

mutual

def Means.builtin (means : Means) : Nat → Bool → String → List String → Run Nat
  | 0, _, _, _ => Run.stall
  | bound + 1, final, name, arguments => do
    let status ← Deed.status (means.running bound final name arguments)
    let state ← get
    match state.unwritten with
    | none => pure status
    | some fault => do
      set { state with unwritten := none }
      blame name ("write error: " ++ fault.wording)
      pure 1

def Means.running (means : Means) : Nat → Bool → String → List String → Deed Nat
  | 0, _, _, _ => (Run.stall : Run Nat)
  | bound + 1, final, name, arguments => do
    match name with
    | "exit" => do
      let status ← statusOf name arguments
      (throw (Departure.exited status) : Run Nat)
    | "return" => do
      let state ← get
      if state.extra.frames.isEmpty then
        quit name "can only `return' from a function or sourced script" 2
      else do
        let status ← statusOf name arguments
        (throw (Departure.returned status) : Run Nat)
    | "break" | "continue" => leaveLoops name arguments
    | "eval" => do
      let (_, operands) ← letters "eval" [] arguments
      if operands.isEmpty then pure 0
      else do
        let text := " ".intercalate operands
        modify fun state => { state with status := 0 }
        (means.runText text.toList (← get).line (some "eval") : Run Unit)
        pure (← get).status
    | "." | "source" => means.source name arguments
    | "exec" => means.become arguments
    | "command" => do
      let (given, operands) ← letters "command" ['p', 'v', 'V'] arguments
      match operands with
      | [] => pure 0
      | word :: rest =>
        if given.contains 'v' || given.contains 'V' then
          describeAll (given.contains 'V') operands
        else if builtins.contains word then means.builtin bound final word rest
        else means.program final word rest
    | "builtin" => do
      let (_, operands) ← letters "builtin" [] arguments
      match operands with
      | [] => pure 0
      | word :: rest =>
        if builtins.contains word then means.builtin bound final word rest
        else quit "builtin" (word ++ ": not a shell builtin") 1
    | "export" | "readonly" => do
      for word in arguments do
        match operandOf word with
        | ⟨place, appends, some value⟩ =>
          (means.trace (place.text ++ assignmentSign appends ++ Requoting.traced value) : Run Unit)
        | _ => pure ()
      perform name arguments
    | _ => perform name arguments

end

def longestDelegation : Nat := 1000

def Means.invoke (means : Means) (final : Bool) (name : String) (arguments : List String) :
    Run Nat := do
  let state ← get
  match state.functions.lookup name with
  | some body => means.call name body arguments
  | none =>
    if builtins.contains name then means.builtin longestDelegation final name arguments
    else means.program final name arguments

def closeChannels (before : List Nat) : Run Unit :=
  modify fun state =>
    let opened := state.extra.channels.filter fun descriptor => !before.contains descriptor
    let closed := opened.foldl (fun state descriptor => state.disconnect descriptor) state
    closed.withExtras fun extras => { extras with channels := before }

def shiftedLine (state : State) (line : Nat) : Nat := ((line : Int) + state.extra.shift).toNat

def Means.simple (means : Means) (final : Bool) (line : Nat) (assignments : List Assignment)
    (words : List Word) (redirections : List Redirection) : Run Unit := do
  modify fun state => { state with line := shiftedLine state line, outputStatus := 0 }
  means.happen debugging
  let channels := (← get).extra.channels
  let command ← means.command words
  let fields := command.fields
  match fields with
  | [] => do
    means.assignAll assignments
    withDescriptors redirections do
      if ← redirect means redirections then setStatus (← get).outputStatus else setStatus 1
    noteLastWord ""
  | name :: arguments => do
    let before ← get
    means.assignForCommand assignments
    means.trace (" ".intercalate (fields.map Requoting.traced))
    let lasting := fields = ["exec"]
    let run : Run Unit := do
      if ← redirect means redirections then do
        let status ← means.invoke (final && redirections.isEmpty) name arguments
        for operand in command.lists do
          assignDeclared operand
        setStatus status
      else setStatus 1
    let back (state : State) : State := assignments.foldl (fun state assignment =>
      let name := nameOfAssignment assignment
      state.putBack name (before.find name)) state
    putting id back (if lasting then run else withDescriptors redirections run)
    noteLastWord (fields.getLast?.getD "")
  closeChannels channels
  noteStatuses [(← get).status]
  means.judge

end ChartManifests.Program.Rich
