import ChartManifests.Program.State
/-!
What programs do, step by step. A program runs until it ends, until it has to wait for something, or
until it starts another program; what it does then is a function of the state in which it goes on.
So several programs can take turns, and whoever lets them decides which one goes on.

An action that comes to a value knows what is done with the value, and with the departure if it
comes to none.
-/

namespace ChartManifests.Program

/-- What a program waits for: its next turn; something to read in a channel; room in a channel;
someone to open the other end of one; everyone to leave the other end; the end of any of some
programs of its own; or nothing that will ever come. -/
inductive Event
  | turn
  | bytes (channel : Nat)
  | room (channel : Nat)
  | partner (channel : Nat) (reads : Bool)
  | abandonment (channel : Nat)
  | ending (identities : List Nat)
  | nothing
deriving DecidableEq, Repr

structure Wait where
  event : Event
  until_ : Option Nat
  interruptible : Bool
deriving DecidableEq, Repr

inductive Thread
  | ended (finish : Finish) (state : State)
  | waiting (wait : Wait) (state : State) (resume : State → Thread)
  | forking (begun : State) (child : State → Thread) (state : State) (resume : State → Thread)

def Run (α : Type) : Type := (Except Departure α → State → Thread) → State → Thread

namespace Run

@[inline] def of {α : Type} (step : (Except Departure α → State → Thread) → State → Thread) :
    Run α := step

@[inline] protected def pure {α : Type} (value : α) : Run α := fun next => next (.ok value)

@[inline] protected def bind {α β : Type} (action : Run α) (step : α → Run β) : Run β :=
  fun next => action fun result state =>
    match result with
    | .ok value => step value next state
    | .error departure => next (.error departure) state

instance : Monad Run where
  pure := Run.pure
  bind := Run.bind

instance : MonadStateOf State Run where
  get := fun next state => next (.ok state) state
  set changed := fun next _ => next (.ok ()) changed
  modifyGet step := fun next state =>
    let (value, changed) := step state
    next (.ok value) changed

instance : MonadExceptOf Departure Run where
  throw departure := fun next => next (.error departure)
  tryCatch action handle := fun next => action fun result state =>
    match result with
    | .ok value => next (.ok value) state
    | .error departure => handle departure next state

def await (wait : Wait) : Run Unit :=
  .of fun next state => .waiting wait state (next (.ok ()))

def awaitEvent (event : Event) : Run Unit := await ⟨event, none, false⟩

def yield : Run Unit := awaitEvent .turn

def stall {α : Type} : Run α :=
  .of fun _ state => .waiting ⟨.nothing, none, false⟩ state fun last =>
    .ended (.status 0) last

def finish {α : Type} (finish : Finish) : Run α := .of fun _ state => .ended finish state

def thread (action : Run Nat) : State → Thread :=
  action fun result state =>
    match result with
    | .ok status => .ended (.status (status % 256)) state
    | .error (.exited status) | .error (.returned status) => .ended (.status (status % 256)) state
    | .error .refused => .ended (.status 2) state
    | .error _ => .ended (.status (state.status % 256)) state

def replace {α : Type} (action : Run Nat) : Run α := .of fun _ state => action.thread state

def fork (begun : State) (action : Run Nat) : Run Nat :=
  .of fun next state => .forking begun action.thread state fun after =>
    next (.ok after.forked) after

def finishOf? (identity : Nat) : Run (Option Finish) := do
  let state ← get
  set { state with finished := state.finished.filter (·.1 ≠ identity) }
  pure (state.finished.lookup identity)

def ending (identity : Nat) : Run Finish := do
  awaitEvent (.ending [identity])
  pure ((← finishOf? identity).getD (.status 0))

def pass (duration : Nat) : Run Unit := do
  let clock := (← get).clock
  await ⟨.nothing, some (clock + duration), true⟩

end Run

end ChartManifests.Program
