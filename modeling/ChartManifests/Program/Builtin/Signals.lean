import ChartManifests.Program.Builtin
/-!
What is arranged for signals, signals that are sent, and programs that run beside the shell.
-/

namespace ChartManifests.Program.Builtin

def trapOf (state : State) (number : Nat) : Option String := state.traps.lookup number

def trapLines (state : State) : String :=
  String.join (Signal.names.zipIdx.filterMap fun (name, number) =>
    (trapOf state number).map fun action =>
      "trap -- " ++ Parameter.quoted action ++ " " ++ name ++ "\n")

def trap (arguments : List String) : Run Nat := do
  let (_, operands) ← letters "trap" [] arguments
  let arrange (action : Option String) (signals : List String) : Run Nat := do
    let mut status := 0
    for signal in signals do
      if status = 0 then
        match Signal.number? signal with
        | none =>
          writeText 2 ("trap: " ++ signal ++ ": bad trap\n")
          status := 1
        | some number =>
          modify fun state =>
            let others := state.traps.filter fun trap => trap.1 ≠ number
            { state with traps := match action with
              | some text => (number, text) :: others
              | none => others }
    pure status
  match operands with
  | [] =>
    writeText 1 (trapLines (← get))
    pure 0
  | [signal] => arrange none [signal]
  | first :: signals =>
    if Signal.isNumber first then arrange none operands
    else arrange (if first = "-" then none else some first) signals

def killUsage : String :=
  "Usage: kill [-s sigspec | -signum | -sigspec] [pid | job]... or\nkill -l [exitstatus]"

def listSignals (operands : List String) : Run Nat :=
  match operands with
  | [] => do
    writeText 1 (String.join (("0" :: Signal.names.drop 1).map (· ++ "\n")))
    pure 0
  | word :: _ => do
    let given ← number "kill" word
    let number := if 128 < given then given - 128 else given
    match Signal.names[number]? with
    | some name =>
      if number = 0 then refuse "kill" ("invalid signal number or exit status: " ++ word)
      else
        writeText 1 (name ++ "\n")
        pure 0
    | none => refuse "kill" ("invalid signal number or exit status: " ++ word)

def send (recipient : Recipient) (signal : Nat) : Run Unit := do
  if signal ≠ 0 then
    modify fun state => { state with signals := state.signals ++ [(recipient, signal)] }
    Run.yield

/-- Takes note of the programs beside the shell that have ended. The shell does so when it waits for
something, so what ends one meanwhile is reported only if it waits for that one. -/
def noteEndings : Run Unit :=
  modify fun state => { state with
    jobs := state.jobs.map fun job => { job with
      finish := job.finish.or (state.finished.lookup job.identity) } }

def jobNamed (name word : String) : Run Job := do
  let jobs := (← get).jobs
  let found := match (word.toList.drop 1) with
    | [] | ['%'] | ['+'] => jobs[0]?
    | ['-'] => jobs[1]?
    | digits => jobs.find? fun job => toString job.place = String.ofList digits
  match found with
  | some job => pure job
  | none => refuse name ("No such job: " ++ word)

def sendTo (signal : Nat) (targets : List String) : Run Nat := do
  let mut status := 0
  for target in targets do
    let (isGroup, number) ← match target.toList with
      | '%' :: _ => do pure (true, (← jobNamed "kill" target).identity)
      | '-' :: digits => do pure (true, ← number "kill" (String.ofList digits))
      | _ => do pure (false, ← number "kill" target)
    let state ← get
    if !isGroup && number = 0 then send (.group state.group) signal
    else if isGroup && number = state.group then send (.group number) signal
    else if !isGroup && (state.running.contains number
        || state.jobs.any fun job => job.identity = number && job.finish.isNone) then
      send (.one number) signal
    else
      complain "No such process\n"
      status := 1
  pure status

def kill (arguments : List String) : Run Nat := do
  let quick := match (arguments.headD "").toList with
    | '-' :: name => Signal.number? (String.ofList name)
    | _ => none
  match quick with
  | some signal =>
    if arguments.length = 1 then refuse "kill" killUsage else sendTo signal (arguments.drop 1)
  | none =>
    let (given, operands) ← options "kill" ['l'] ['s'] arguments
    if given.any fun option => option.1 = 'l' then listSignals operands
    else
      let signal ← match given.getLast? with
        | some (_, name) =>
          match Signal.number? name with
          | some signal => pure signal
          | none => refuse "kill" ("invalid signal number or name: " ++ name)
        | none => pure 15
      if operands.isEmpty then refuse "kill" killUsage else sendTo signal operands

def addJob (identity : Nat) (text : String) : Run Unit := do
  let jobs := (← get).jobs
  let left := jobs.filter fun job => !(job.finish.isSome && job.awaited)
  let place := ((List.range (left.length + 1)).map (· + 1)).find? fun place =>
    !left.any fun job => job.place = place
  let kept := jobs.filter fun job => some job.place ≠ place
  modify fun state => { state with
    jobs := ⟨place.getD 1, identity, none, false, text⟩ :: kept, latest := some identity }

def Job.state : Option Finish → String
  | none => "Running"
  | some (.status 0) => "Done"
  | some (.status code) => "Done(" ++ toString code ++ ")"
  | some (.signal number) => Signal.notice number

/-- Lists the programs beside the shell. One that has ended is forgotten then, and the next one
counts as the latest. -/
def listJobs (arguments : List String) : Run Nat := do
  let (given, operands) ← letters "jobs" ['l', 'p'] arguments
  noteEndings
  let jobs := (← get).jobs
  let chosen ← if operands.isEmpty then pure jobs else operands.mapM (jobNamed "jobs")
  for job in chosen do
    let left := (← get).jobs
    if given.getLast? = some 'p' then writeText 1 (toString job.identity ++ "\n")
    else
      let mark := if left.head?.any (·.place = job.place) then "+"
        else if (left[1]?).any (·.place = job.place) then "-" else " "
      let number := if given.contains 'l' then toString job.identity ++ " " else ""
      let shown := Job.state job.finish
      let padding := String.ofList (List.replicate (27 - number.length - shown.length) ' ')
      writeText 1 ("[" ++ toString job.place ++ "] " ++ mark ++ " " ++ number ++ shown ++ padding
        ++ "\n")
    if job.finish.isSome then
      modify fun state => { state with jobs := left.filter fun other => other.place ≠ job.place }
  pure 0

/-- Reports the signal that ended a program, unless it is usual for that to happen. A rich shell
tells which program it was, but not of all signals. -/
def reportSignal (identity signal : Nat) (isInFront : Bool) (text : String) : Run Unit := do
  let notice := Signal.notice signal
  if !(← get).isRich then do
    if notice ≠ "" then writeText 2 (notice ++ "\n")
  else if signal = 15 then do
    if isInFront then writeText 2 (notice ++ "\n")
  else if signal ≠ 2 && signal ≠ 13 then
    let shown := toString identity
    complain (String.ofList (List.replicate (5 - shown.length) ' ') ++ shown ++ " " ++ notice
      ++ String.ofList (List.replicate (24 - notice.length) ' ') ++ text)

/-- Waits for one of some programs beside the shell; a signal that something was arranged for ends
the wait, with the status that stands for it. -/
def waitForAny (identities : List Nat) : Run (Option Nat) := do
  Run.await ⟨.ending identities, none, true⟩
  pure ((← get).arrived.head?.map (128 + ·))

/-- Waits for one program. The first time that it is known to have ended, what ended it is
reported unless it is usual for that to happen. -/
def waitForJob (job : Job) : Run Nat := do
  let interrupted ← if job.finish.isSome then pure none else waitForAny [job.identity]
  match interrupted with
  | some status => pure status
  | none => do
    let finish ← match job.finish with
      | some finish => pure finish
      | none => Run.ending job.identity
    noteEndings
    modify fun state => { state with
      jobs := state.jobs.map fun other =>
        if other.identity = job.identity then { job with finish := some finish, awaited := true }
        else other }
    match finish, job.finish with
    | .signal signal, none => reportSignal job.identity signal false job.text
    | _, _ => pure ()
    pure finish.toStatus

def waitForAll : Nat → Run Nat
  | 0 => pure 0
  | bound + 1 => do
    noteEndings
    match (← get).jobs.filter fun job => job.finish.isNone with
    | [] => do
      modify fun state => { state with
        jobs := state.jobs.map fun job => { job with awaited := true } }
      pure 0
    | left => do
      match ← waitForAny (left.map Job.identity) with
      | some status => pure status
      | none => waitForAll bound

def wait (arguments : List String) : Run Nat := do
  let (_, operands) ← letters "wait" [] arguments
  match operands with
  | [] => do waitForAll ((← get).jobs.length + 1)
  | words =>
    let mut status := 0
    for word in words do
      let jobs := (← get).jobs
      let job? ← if word.toList.head? = some '%' then do pure (some (← jobNamed "wait" word))
        else do
          let identity ← number "wait" word
          pure (jobs.find? fun job => job.identity = identity)
      status ← match job? with
        | some job => waitForJob job
        | none => pure 127
    pure status

end ChartManifests.Program.Builtin
