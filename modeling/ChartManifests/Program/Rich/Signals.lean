import ChartManifests.Program.Builtin.Signals
import ChartManifests.Program.Requoting
import ChartManifests.Program.Rich.Basic
/-!
What the rich shell arranges for signals and for what happens to it, signals that it sends, and
programs that run beside it.
-/

namespace ChartManifests.Program.Rich

def debugging : Nat := Signal.names.length

def failure : Nat := Signal.names.length + 1

def comingBack : Nat := Signal.names.length + 2

def signalName (number : Nat) : String :=
  if number = 0 then "EXIT"
  else if number = debugging then "DEBUG"
  else if number = failure then "ERR"
  else if number = comingBack then "RETURN"
  else "SIG" ++ (Signal.names[number]?).getD ""

def signalNumber? (word : String) : Option Nat :=
  let upper := String.ofList (word.toList.map Char.toUpper)
  match upper with
  | "DEBUG" => some debugging
  | "ERR" => some failure
  | "RETURN" => some comingBack
  | _ =>
    match upper.toList with
    | 'S' :: 'I' :: 'G' :: name => Signal.number? (String.ofList name)
    | _ => Signal.number? word

def trapLine (state : State) (number : Nat) : String :=
  match Builtin.trapOf state number with
  | some action => "trap -- " ++ Requoting.single action ++ " " ++ signalName number ++ "\n"
  | none => ""

def signalTable : String :=
  let numbers := (List.range 65).filter fun number => 0 < number && number ≠ 32 && number ≠ 33
  String.join (numbers.zipIdx.map fun (number, index) =>
    (if number < 10 then " " else "") ++ toString number ++ ") " ++ signalName number
      ++ (if index % 5 = 4 || number = 64 then "\n" else "\t"))

def trap (arguments : List String) : Deed Nat := do
  let (given, operands) ← letters "trap" ['l', 'p'] arguments
  let arrange (action : Option String) (signals : List String) : Run Nat := do
    let mut status := 0
    for signal in signals do
      match signalNumber? signal with
      | none =>
        blame "trap" (signal ++ ": invalid signal specification")
        status := 1
      | some number =>
        modify fun state =>
          let others := state.traps.filter fun trap => trap.1 ≠ number
          { state with traps := match action with
            | some text => (number, text) :: others
            | none => others }
    pure status
  if given.contains 'l' then do
    writeText 1 signalTable
    pure 0
  else if given.contains 'p' || operands.isEmpty then do
    let state ← get
    if operands.isEmpty then do
      writeText 1 (String.join ((List.range (comingBack + 1)).map (trapLine state)))
      pure 0
    else do
      let mut status := 0
      for word in operands do
        match signalNumber? word with
        | some number => writeText 1 (trapLine state number)
        | none =>
          blame "trap" (word ++ ": invalid signal specification")
          status := 1
      pure status
  else
    match operands with
    | [signal] =>
      if (signalNumber? signal).isSome then arrange none [signal] else misused "trap"
    | first :: signals =>
      if Signal.isNumber first && (signalNumber? first).isSome then arrange none operands
      else arrange (if first = "-" then none else some first) signals
    | [] => pure 0

def jobNamed (state : State) (word : String) : Option Job :=
  match word.toList.drop 1 with
  | [] | ['%'] | ['+'] => state.jobs[0]?
  | ['-'] => (state.jobs[1]?).or state.jobs[0]?
  | digits =>
    let text := String.ofList digits
    if Signal.isNumber text then state.jobs.find? fun job => toString job.place = text
    else
      match digits with
      | '?' :: part => state.jobs.find? fun job =>
        (List.range (job.text.length + 1)).any fun start =>
          part.isPrefixOf (job.text.toList.drop start)
      | _ => state.jobs.find? fun job => digits.isPrefixOf job.text.toList

def sendTo (signal : Nat) (targets : List String) : Run Nat := do
  let mut status := 1
  for target in targets do
    let state ← get
    let recipient? : Except String (Bool × Nat) := match target.toList with
      | '%' :: _ =>
        match jobNamed state target with
        | some job => .ok (true, job.identity)
        | none => .error (target ++ ": no such job")
      | _ =>
        match integer? target with
        | some number => .ok (number < 0, number.natAbs)
        | none => .error (target ++ ": arguments must be process or job IDs")
    match recipient? with
    | .error text => blame "kill" text
    | .ok (isGroup, number) =>
      let isOwn := !isGroup && number = 0
      let isThere := if isGroup then
          number = state.group || state.jobs.any fun job => job.identity = number
        else isOwn || state.running.contains number
          || state.jobs.any fun job => job.identity = number && job.finish.isNone
      if !isThere then
        blame "kill" ("(" ++ target ++ ") - No such process")
      else
        let recipient := if isOwn then Recipient.group state.group
          else if isGroup && number = state.group then Recipient.group number
          else Recipient.one number
        Builtin.send recipient signal
        status := 0
  pure status

def listSignals (operands : List String) : Run Nat := do
  if operands.isEmpty then do
    writeText 1 signalTable
    pure 0
  else do
    let mut status := 0
    for word in operands do
      match integer? word with
      | some given =>
        let number := if 128 < given then given - 128 else given
        if 0 ≤ number ∧ number < 65 then
          writeText 1 ((if number = 0 then "EXIT"
            else (Signal.names[number.toNat]?).getD "") ++ "\n")
        else
          blame "kill" (word ++ ": invalid signal specification")
          status := 1
      | none =>
        match signalNumber? word with
        | some number => writeText 1 (toString number ++ "\n")
        | none =>
          blame "kill" (word ++ ": invalid signal specification")
          status := 1
    pure status

def kill (arguments : List String) : Deed Nat := do
  let proper (signal? : Option Nat) (word : String) : Deed Nat :=
    match signal?.filter (· < debugging) with
    | some signal => pure signal
    | none => quit "kill" (word ++ ": invalid signal specification") 1
  match arguments with
  | [] => misused "kill"
  | word :: rest =>
    let send (signal : Nat) (targets : List String) : Deed Nat := do
      match targets with
      | [] => misused "kill"
      | _ => sendTo signal targets
    match word.toList with
    | ['-', 'l'] | ['-', 'L'] => listSignals rest
    | ['-', '-'] => send 15 rest
    | ['-', letter] =>
      if letter = 's' || letter = 'n' then
        match rest with
        | [] => quit "kill" ("-" ++ String.singleton letter ++ ": option requires an argument") 1
        | name :: targets => do send (← proper (signalNumber? name) name) targets
      else do
        let name := String.singleton letter
        send (← proper (signalNumber? name) name) rest
    | '-' :: name => do
      let text := String.ofList name
      let targets := if rest.head? = some "--" then rest.drop 1 else rest
      send (← proper (signalNumber? text) text) targets
    | _ => send 15 arguments

def jobState : Option Finish → String
  | none => "Running"
  | some (.status 0) => "Done"
  | some (.status code) => "Exit " ++ toString code
  | some (.signal number) => Signal.notice number

def jobLine (jobs : List Job) (job : Job) (long : Bool) : String :=
  let mark := if jobs.head?.any (·.place = job.place) then "+"
    else if (jobs[1]?).any (·.place = job.place) then "-" else " "
  let shown := jobState job.finish
  let padding := String.ofList (List.replicate (24 - shown.length) ' ')
  let identity := if long then " " ++ toString job.identity ++ " " else "  "
  "[" ++ toString job.place ++ "]" ++ mark ++ identity ++ shown ++ padding ++ job.text
    ++ (if job.finish.isNone then " &" else "") ++ "\n"

def listJobs (arguments : List String) : Deed Nat := do
  let (given, operands) ← letters "jobs" "lnprs".toList arguments
  Builtin.noteEndings
  let state ← get
  let known := if state.jobs.isEmpty then state.extra.siblings else state.jobs
  let jobs := known.filter fun job => !(job.finish.isSome && job.awaited)
  let mut status := 0
  let mut chosen := []
  if operands.isEmpty then chosen := jobs.mergeSort fun left right => left.place ≤ right.place
  for word in operands do
    match jobNamed (← get) word with
    | some job => chosen := chosen ++ [job]
    | none =>
      blame "jobs" (word ++ ": no such job")
      status := 1
  for job in chosen do
    if given.contains 'p' then writeText 1 (toString job.identity ++ "\n")
    else if (given.contains 'r' && job.finish.isSome) || given.contains 's' then pure ()
    else writeText 1 (jobLine jobs job (given.contains 'l'))
    if job.finish.isSome then
      modify fun state => { state with jobs := state.jobs.map fun other =>
        if other.place = job.place then { other with awaited := true } else other }
  pure status

def disown (arguments : List String) : Deed Nat := do
  let (given, operands) ← letters "disown" ['a', 'h', 'r'] arguments
  if given.contains 'a' then do
    modify fun state => { state with jobs := [] }
    pure 0
  else do
    let mut status := 0
    for word in (if operands.isEmpty then ["%+"] else operands) do
      let state ← get
      let job? := if word.toList.head? = some '%' then jobNamed state word
        else state.jobs.find? fun job => toString job.identity = word
      match job? with
      | some job =>
        set { state with jobs := state.jobs.filter fun other => other.place ≠ job.place }
      | none =>
        blame "disown" ((if operands.isEmpty then "current" else word) ++ ": no such job")
        status := 1
    pure status

def waitForNext : Run Nat := do
  Builtin.noteEndings
  let state ← get
  let left := state.jobs.filter fun job => !job.awaited
  match left.find? fun job => job.finish.isSome with
  | some job => Builtin.waitForJob job
  | none =>
    if left.isEmpty then pure 127
    else do
      match ← Builtin.waitForAny (left.map Job.identity) with
      | some status => pure status
      | none => do
        Builtin.noteEndings
        let ended := (← get).jobs.find? fun job => job.finish.isSome && !job.awaited
        match ended with
        | some job => Builtin.waitForJob job
        | none => pure 127

def wait (arguments : List String) : Deed Nat := do
  let (given, operands) ← options "wait" ['f', 'n'] ['p'] arguments
  if given.any fun option => option.1 = 'n' then waitForNext
  else if operands.isEmpty then do Builtin.waitForAll ((← get).jobs.length + 1)
  else do
    let mut status := 0
    for word in operands do
      let state ← get
      if word.toList.head? = some '%' then
        match jobNamed state word with
        | some job => status := ← Builtin.waitForJob job
        | none =>
          blame "wait" (word ++ ": no such job")
          status := 127
      else if !Signal.isNumber word then
        blame "wait" ("`" ++ word ++ "': not a pid or valid job spec")
        status := 1
      else
        match state.jobs.find? fun job => toString job.identity = word with
        | some job => status := ← Builtin.waitForJob job
        | none =>
          blame "wait" ("pid " ++ word ++ " is not a child of this shell")
          status := 127
    pure status

end ChartManifests.Program.Rich
