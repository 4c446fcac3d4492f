import ChartManifests.Program.Builtin.Signals
/-!
Actions in a setting that is put back in the end: with other descriptors, inside of a loop, or until
a program has ended.
-/

namespace ChartManifests.Program

open Shell (Redirection)

def putting {α : Type} (change back : State → State) (action : Run α) : Run α := do
  modify change
  let result ← tryCatch action fun departure => do
    modify back
    throw departure
  modify back
  pure result

def heldBack (state : State) (redirections : List Redirection) : List (Nat × Option Nat) :=
  redirections.filterMap fun redirection => match redirection with
    | .mk (.number descriptor) _ _ => some (descriptor, state.streamNumber? descriptor)
    | .mk (.named _) _ _ => none

def State.returned (state : State) (held : List (Nat × Option Nat)) : State :=
  held.foldl (fun state (descriptor, stream?) =>
    match stream? with
    | some number => state.connect descriptor number
    | none => state.disconnect descriptor) state

def withDescriptors {α : Type} (redirections : List Redirection) (action : Run α) : Run α := do
  let before ← get
  let held := heldBack before redirections
  let streams := held.filterMap fun entry => entry.2.map fun number => (entry.1, number)
  putting (fun state => { state with kept := streams :: state.kept })
    (fun state => { state.returned held with kept := before.kept }) action

def runTurn (part : Run Bool) : Run (Bool × Bool) := do
  let loops := (← get).loops
  let leave (goesOn : Bool) : Run (Bool × Bool) := do
    modify fun state => { state with loops }
    pure (true, goesOn)
  tryCatch (do
      let result ← part
      pure (result, true))
    fun departure => match departure with
      | .broken levels => if levels ≤ 1 then leave false else throw (.broken (levels - 1))
      | .continued levels => if levels ≤ 1 then leave true else throw (.continued (levels - 1))
      | other => throw other

/-- Waits for a program in front, and tells its status; what ended it is reported unless it is usual
for that to happen. -/
def awaitProgram (identity : Nat) (text : String) : Run Nat := do
  let finish ← Run.ending identity
  Builtin.noteEndings
  match finish with
  | .signal number => Builtin.reportSignal identity number true text
  | .status _ => pure ()
  pure finish.toStatus

def deepestCall : Nat := 20000

end ChartManifests.Program
