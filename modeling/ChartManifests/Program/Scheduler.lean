import ChartManifests.Program.Signal
import ChartManifests.Program.Transfer
/-!
Programs that run beside each other. Each has a time of its own, up to which it has come; the one
that is furthest behind goes on, until it has to wait. A wait is over when what is waited for has
come about, and it then counts from that time on. A program may have ended by a signal before.

Writing to a channel that everyone has left tells so, and reading from one that nobody writes to any
more finds its end. One that is filled by programs that go on for as long as they are read counts as
ended too: whoever reads it knows that it has only seen a part.
-/

namespace ChartManifests.Program

/-- A program among others: its state without what is shared, what it waits for and how it goes on,
the time that it has come to, how its wait has ended if it has, and whether it is stopped. -/
structure Process where
  state : State
  wait : Wait
  resume : State → Thread
  time : Nat
  answer : Option Answer
  stopped : Bool

def Process.isExhausted (process : Process) : Bool :=
  process.answer.isNone && (process.wait.event matches .abandonment _)

def Process.holds (process : Process) (streams : Array Stream) (isMeant : Stream → Bool) : Bool :=
  let leads (entry : Nat × Nat) : Bool := (streams[entry.2]?).any isMeant
  process.state.descriptors.any leads || process.state.kept.any fun kept => kept.any leads

def Process.next? (process : Process) : Option Nat :=
  if process.stopped then none
  else if process.answer.isSome then some process.time
  else process.wait.until_.map (max process.time)

def nobody : Nat := 1

structure Crowd where
  processes : List Process
  shared : Surroundings

namespace Crowd

def turnTime : Nat := 4

def forkTime : Nat := 50

def birthTime : Nat := 150

def someHolds (crowd : Crowd) (isMeant : Stream → Bool) : Bool :=
  crowd.processes.any fun process => process.holds crowd.shared.streams isMeant

def isRead (crowd : Crowd) (channel : Nat) : Bool := crowd.someHolds (· = .source channel)

def isWritten (crowd : Crowd) (channel : Nat) : Bool := crowd.someHolds (· = .sink channel)

/-- Whether a channel is filled without end: whoever could write to it has written all that is
ever looked at, or waits for such a program. -/
def isFlooded (crowd : Crowd) (channel : Nat) : Bool :=
  let exhausted := (crowd.processes.filter Process.isExhausted).map (·.state.identity)
  let waitsForOne (process : Process) : Bool := match process.wait.event with
    | .ending identities => identities.any exhausted.contains
    | _ => false
  let holders := crowd.processes.filter fun process =>
    process.holds crowd.shared.streams (· = .sink channel)
  holders.any Process.isExhausted
    && holders.all fun process => process.isExhausted || waitsForOne process

def answerTo (crowd : Crowd) (process : Process) : Option Answer :=
  let when (holds : Bool) (answer : Answer) : Option Answer := if holds then some answer else none
  let content (channel : Nat) : Text.Bytes := (crowd.shared.channels[channel]?).getD []
  let found : Option Answer := match process.wait.event with
    | .turn => some .usual
    | .bytes channel =>
      if !(content channel).isEmpty then some .usual
      else if !crowd.isWritten channel then some .left
      else when (crowd.isFlooded channel) .flooded
    | .room channel =>
      if !crowd.isRead channel then some .left
      else when ((content channel).length < longestChannel) .usual
    | .partner channel reads =>
      when (if reads then crowd.isWritten channel else crowd.isRead channel) .usual
    | .abandonment channel => when (!crowd.isRead channel) .usual
    | .ending identities =>
      when (identities.any fun identity => !crowd.shared.running.contains identity) .usual
    | .nothing => none
  found.or (when (process.wait.interruptible && !process.state.arrived.isEmpty) .usual)

def noteAnswers (crowd : Crowd) : Crowd :=
  { crowd with processes := crowd.processes.map fun process =>
      if process.answer.isSome then process
      else
        match crowd.answerTo process with
        | some answer =>
          { process with answer := some answer, time := max process.time crowd.shared.clock }
        | none => process }

def earlier (best : Option (Nat × Process)) (process : Process) : Option (Nat × Process) :=
  match process.next?, best with
  | none, _ => best
  | some time, none => some (time, process)
  | some time, some (earliest, other) =>
    if time < earliest then some (time, process) else some (earliest, other)

def first? (crowd : Crowd) : Option (Nat × Process) := crowd.processes.foldl earlier none

def replace (crowd : Crowd) (changed : Process) : Crowd :=
  { crowd with processes := crowd.processes.map fun process =>
      if process.state.identity = changed.state.identity then changed else process }

def tell (process : Process) : Process :=
  if (process.state.traps.lookup 17).any (· ≠ "") then
    { process with state := { process.state with arrived := process.state.arrived ++ [17] } }
  else process

def bury (crowd : Crowd) (identity parent : Nat) (finish : Finish) : Crowd :=
  let others := crowd.processes.filter fun process => process.state.identity ≠ identity
  let children := (others.filter fun process => process.state.parent = identity).map
    (·.state.identity)
  let finished := if parent = nobody then crowd.shared.finished
    else (identity, finish) :: crowd.shared.finished
  { processes := others.map fun process =>
      if children.contains process.state.identity then
        { process with state := { process.state with parent := nobody } }
      else if process.state.identity = parent then tell process
      else process
    shared := { crowd.shared with
      running := crowd.shared.running.filter (· ≠ identity)
      finished } }

def longestStep : Nat := 100000

def advance (crowd : Crowd) : Nat → Thread → Crowd
  | 0, _ => crowd
  | bound + 1, thread =>
    match thread with
    | .ended finish state =>
      { crowd with shared := state.toSurroundings }.bury state.identity state.parent finish
    | .waiting wait state resume =>
      { crowd with shared := state.toSurroundings }.replace
        ⟨{ state with toSurroundings := .none }, wait, resume, state.clock + turnTime, none, false⟩
    | .forking begun child state resume =>
      let identity := state.next
      let shared := { state.toSurroundings with
        next := identity + 1
        running := identity :: state.running }
      let born : Process := ⟨{ begun with
          toSurroundings := .none
          identity
          parent := state.identity }, ⟨.turn, none, false⟩, child, state.clock + birthTime,
        some .usual, false⟩
      let after := { state with toSurroundings := shared.pass forkTime, forked := identity }
      { crowd with processes := crowd.processes ++ [born] }.advance bound (resume after)

def strike (crowd : Crowd) (number : Nat) (process : Process) : Crowd :=
  let arrange (action : String) : Crowd :=
    if action = "" then crowd
    else crowd.replace { process with
      state := { process.state with arrived := process.state.arrived ++ [number] } }
  if number = 18 then crowd.replace { process with stopped := false }
  else
    match process.state.traps.lookup number, Signal.effect number with
    | some action, effect =>
      if number = 9 then crowd.bury process.state.identity process.state.parent (.signal 9)
      else if number = 19 then crowd.replace { process with stopped := effect = .stops }
      else arrange action
    | none, .ends => crowd.bury process.state.identity process.state.parent (.signal number)
    | none, .stops => crowd.replace { process with stopped := true }
    | none, .ignored => crowd

def deliver (crowd : Crowd) : Crowd :=
  let sent := crowd.shared.signals
  sent.foldl (fun crowd (recipient, number) =>
    let targets := crowd.processes.filter fun process =>
      match recipient with
      | .one identity => process.state.identity = identity
      | .group group => process.state.group = group
    targets.foldl (fun crowd process => crowd.strike number process) crowd)
    { crowd with shared := { crowd.shared with signals := [] } }

inductive Outcome
  | finished (finish : Finish) (shared : Surroundings)
  | overdue (shared : Surroundings)

def mostTurns : Nat := 1200000

def mostProcesses : Nat := 500

def grace : Nat := 2000

def isHeard (crowd : Crowd) : Bool :=
  crowd.someHolds fun stream => stream matches .collected _

/-- Follows the programs of a run until nothing of them can be seen any more. `ended` is how and
when the first of them ended, if it has. -/
def follow (main : Nat) : Nat → Option (Finish × Nat) → Crowd → Outcome
  | 0, _, crowd => .overdue crowd.shared
  | bound + 1, ended, crowd =>
    let noted := crowd.deliver.noteAnswers
    let ended := ended.or ((noted.shared.finished.lookup main).map fun finish =>
      (finish, noted.shared.clock))
    let done (finish : Finish) : Outcome := .finished finish noted.shared
    match noted.first?, ended with
    | none, some (finish, _) => if noted.isHeard then .overdue noted.shared else done finish
    | none, none => .overdue noted.shared
    | some (time, process), _ =>
      let late := ended.bind fun (finish, at_) =>
        if !noted.isHeard && at_ + grace < time then some finish else none
      match late with
      | some finish => done finish
      | none =>
        if noted.shared.limit ≤ time || mostProcesses < noted.processes.length then
          .overdue noted.shared
        else
          let shared := noted.shared.pass (time - noted.shared.clock)
          let state := { process.state with
            toSurroundings := shared, answer := process.answer.getD .usual }
          follow main bound ended (noted.advance longestStep (process.resume state))

end Crowd

def runAlone (state : State) (action : Run Nat) : Crowd.Outcome :=
  let process : Process := ⟨{ state with toSurroundings := .none }, ⟨.turn, none, false⟩,
    action.thread, state.clock, some .usual, false⟩
  Crowd.follow state.identity Crowd.mostTurns none ⟨[process], state.toSurroundings⟩

end ChartManifests.Program
