import ChartManifests.Host.Files
import ChartManifests.Number.Whole
import ChartManifests.Program.Parameter
import ChartManifests.Shell.Grammar
/-!
A running program, and what all programs of a run share: the files, the streams and channels between
programs, the time that has passed, and how programs ended. A rich shell keeps some more.

Time passes while a program sleeps, and a little with everything that is done.
-/

namespace ChartManifests.Program

inductive Finish
  | status (code : Nat)
  | signal (number : Nat)
deriving DecidableEq, Repr

def Finish.toStatus : Finish → Nat
  | status code => code
  | signal number => 128 + number

/-- A program that a shell started and did not wait for: its place in the list of those, its number,
how it ended if that is known already, whether somebody has waited for it, and what a rich shell
calls it. -/
structure Job where
  place : Nat
  identity : Nat
  finish : Option Finish
  awaited : Bool
  text : String
deriving DecidableEq, Repr

/-- A call that has not come back: the function, or the word for a file that is read, the line that
it was called from, and the file that what runs now stands in. -/
structure Frame where
  name : String
  line : Nat
  source : String
deriving DecidableEq, Repr

/-- What a rich shell keeps: options that have a name only, further switches that are on, how the
stages of the last pipeline ended, the calls that have not come back, the latest in front, the file
that is run, if it is one, the last word of the last command, where the row of random numbers
stands, when the seconds began to count and from which number, directories to go back to, how many
shells this one has branched off from, programs whose paths are remembered, with how often they were
started, what the text that runs is taken from, how far its lines are from those that are told, how
deep the trace of commands is, descriptors of channels whose paths stand in words, the files that
functions were defined in, and the programs beside the shell that this one branched off from. -/
structure Extras where
  named : List String
  switches : List String
  statuses : List Nat
  frames : List Frame
  script : Option String
  lastWord : String
  seed : Nat
  secondsFrom : Nat × Nat
  stack : List String
  depth : Nat
  remembered : List (String × String × Nat)
  origin : Option String
  shift : Int
  level : Nat
  channels : List Nat
  homes : List (String × String)
  siblings : List Job
deriving DecidableEq, Repr

namespace Extras

def usualSwitches : List String :=
  ["checkwinsize", "cmdhist", "complete_fullquote", "extquote", "force_fignore", "globasciiranges",
    "globskipdots", "hostcomplete", "interactive_comments", "patsub_replacement", "progcomp",
    "promptvars", "sourcepath"]

def first : Extras where
  named := ["interactive-comments"]
  switches := usualSwitches
  statuses := [0]
  frames := []
  script := none
  lastWord := ""
  seed := 1
  secondsFrom := (0, 0)
  stack := []
  depth := 0
  remembered := []
  origin := none
  shift := 0
  level := 1
  channels := []
  homes := []
  siblings := []

def isOn (extras : Extras) (name : String) : Bool := extras.switches.contains name

def random (extras : Extras) : Nat × Extras :=
  let previous := if extras.seed = 0 then 123459876 else extras.seed
  let (high, low) := (previous / 127773, previous % 127773)
  let step : Int := 16807 * low - 2836 * high
  let next := (if step < 0 then step + 0x7fffffff else step).toNat
  (((next / 2 ^ 16) ^^^ (next % 2 ^ 16)) % 2 ^ 15, { extras with seed := next })

end Extras

/-- What a program finds when its wait is over: what it waited for, a channel whose other end has
been left, or one that is filled without end. -/
inductive Answer
  | usual
  | left
  | flooded
deriving DecidableEq, Repr

structure Access where
  reads : Bool
  writes : Bool
  appends : Bool
deriving DecidableEq, Repr

/-- What an open descriptor leads to. A file that was opened is known by its node, and where in it
the next byte is; a channel is known by its number. -/
inductive Stream
  | device (kind : Device)
  | directory
  | pending (content : Text.Bytes)
  | collected (chunks : List Text.Bytes)
  | opened (node offset : Nat) (access : Access)
  | source (channel : Nat)
  | sink (channel : Nat)
deriving DecidableEq, Repr

inductive Recipient
  | one (identity : Nat)
  | group (number : Nat)
deriving DecidableEq, Repr

/-- What all programs of a run share. `running` are the programs that have not ended, `finished` the
ones that have and that nobody has waited for; `next` is the number of the next program; `signals`
have been sent and not been received; `queues` are the channels of the queues in the tree of
files. -/
structure Surroundings where
  files : Files
  streams : Array Stream
  channels : Array Text.Bytes
  queues : List (Nat × Nat)
  clock : Nat
  limit : Nat
  running : List Nat
  finished : List (Nat × Finish)
  next : Nat
  signals : List (Recipient × Nat)

/-- Where the search for options among arguments stands: at an argument, counted from one. `inside`
tells how many characters of the argument before it have been looked at. -/
structure OptionPlace where
  next : Nat
  inside : Option Nat
deriving DecidableEq, Repr

def placeName : String := "OPTIND"

def OptionPlace.first : OptionPlace := ⟨1, none⟩

/-- The state of a program. `shell` is the number that the program knows itself by, and `path` is
the way on which the current directory was gone to; `kept` are
descriptors that are put back later on. `shielded` tells that a failure is only looked at, so that
it does not end the program; `locals` are the parameters that a function puts back when it ends, the
latest in front, if a function runs; `calls` counts the functions that run; `loops` is how many
loops are gone around; `outputStatus` is how the last statements ended whose output stands in a
word; `latest` is the last program that was not waited for. `line` is the line of the command that
runs, `reached` the one that the script is read up to, and `speaker` the utility of the shell, or
the script, that complaints name. `forked` is the last program that was started, `answer` is how the
last wait ended, and `arrived` are signals that something was arranged for; `flooded` tells that
there was no end to what came in, and `unwritten` why something could not be written. Only a rich
shell has `extras`. -/
structure State extends Surroundings where
  identity : Nat
  parent : Nat
  group : Nat
  shell : Nat
  current : Location
  path : String
  descriptors : List (Nat × Nat)
  kept : List (List (Nat × Nat))
  parameters : List Parameter
  arguments : List String
  place : OptionPlace
  title : String
  locals : Option (List (String × Option Parameter))
  calls : Nat
  functions : List (String × Shell.Statement)
  aliases : List (String × String)
  traps : List (Nat × String)
  options : List Char
  mask : Nat
  shielded : Bool
  loops : Nat
  status : Nat
  outputStatus : Nat
  latest : Option Nat
  jobs : List Job
  line : Nat
  reached : Nat
  speaker : Option String
  forked : Nat
  answer : Answer
  arrived : List Nat
  flooded : Bool
  unwritten : Option FileFault
  extras : Option Extras

/-- Why a program leaves what it is doing; a utility of the shell that refuses to go on ends the
shell in some places only, and a rich shell goes on with the next line of the script. -/
inductive Departure
  | refused
  | exited (status : Nat)
  | returned (status : Nat)
  | broken (levels : Nat)
  | continued (levels : Nat)
deriving DecidableEq, Repr

def joined (chunks : List Text.Bytes) : Text.Bytes :=
  chunks.foldl (fun content chunk => chunk ++ content) []

def Surroundings.none : Surroundings where
  files := Files.empty
  streams := #[]
  channels := #[]
  queues := []
  clock := 0
  limit := 0
  running := []
  finished := []
  next := 0
  signals := []

def Surroundings.pass (around : Surroundings) (duration : Nat) : Surroundings :=
  { around with
    clock := around.clock + duration
    files := { around.files with now := around.files.now + duration } }

namespace State

def isRich (state : State) : Bool := state.extras.isSome

def variety (state : State) : Shell.Variety := if state.isRich then .rich else .plain

def extra (state : State) : Extras := state.extras.getD .first

def withExtras (state : State) (step : Extras → Extras) : State :=
  { state with extras := state.extras.map step }

def isOn (state : State) (name : String) : Bool := state.extras.any (·.isOn name)

def isNamed (state : State) (name : String) : Bool :=
  state.extras.any fun extras => extras.named.contains name

def streamNumber? (state : State) (descriptor : Nat) : Option Nat :=
  state.descriptors.lookup descriptor

def stream? (state : State) (descriptor : Nat) : Option Stream :=
  (state.streamNumber? descriptor).bind fun number => state.streams[number]?

def setStream (state : State) (number : Nat) (stream : Stream) : State :=
  { state with streams := state.streams.setIfInBounds number stream }

def connect (state : State) (descriptor number : Nat) : State :=
  { state with
    descriptors := (descriptor, number) :: state.descriptors.filter (·.1 ≠ descriptor) }

def disconnect (state : State) (descriptor : Nat) : State :=
  { state with descriptors := state.descriptors.filter (·.1 ≠ descriptor) }

def addStream (state : State) (stream : Stream) : State × Nat :=
  ({ state with streams := state.streams.push stream }, state.streams.size)

def addChannel (state : State) : State × Nat × Nat :=
  let channel := state.channels.size
  let streams := (state.streams.push (.source channel)).push (.sink channel)
  ({ state with channels := state.channels.push [], streams },
    state.streams.size, state.streams.size + 1)

def holds (state : State) (number : Nat) : Bool :=
  state.descriptors.any (·.2 = number) || state.kept.any fun kept => kept.any (·.2 = number)

def find (state : State) (name : String) : Option Parameter :=
  state.parameters.find? (·.name = name)

def value? (state : State) (name : String) : Option String :=
  (state.find name).bind Parameter.value

def isFixed (state : State) (name : String) : Bool :=
  (state.find name).any Parameter.fixed

def change (state : State) (name : String) (step : Parameter → Parameter) : State :=
  let parameters :=
    if (state.find name).isSome then
      state.parameters.map fun parameter =>
        if parameter.name = name then step parameter else parameter
    else state.parameters ++ [step (.unknown name)]
  { state with parameters }

def store (state : State) (name value : String) : State :=
  let all := state.options.contains 'a'
  state.change name fun parameter =>
    { parameter.holding value with exported := parameter.exported || all }

def assign (state : State) (name value : String) : State :=
  let stored := state.store name value
  if name = placeName then { stored with place := ⟨max 1 (value.toNat?.getD 1), none⟩ } else stored

def exportName (state : State) (name : String) : State :=
  state.change name fun parameter => { parameter with exported := true }

def fixName (state : State) (name : String) : State :=
  state.change name fun parameter => { parameter with fixed := true }

def unset (state : State) (name : String) : State :=
  { state with parameters := state.parameters.filter (·.name ≠ name) }

/-- Puts a parameter back to what it was. The search for options of a rich shell goes on where that
parameter says. -/
def putBack (state : State) (name : String) (old : Option Parameter) : State :=
  let others := state.parameters.filter (·.name ≠ name)
  let next := (((old.bind Parameter.value).bind String.toNat?).getD 1)
  { state with
    parameters := others ++ old.toList
    place := if state.isRich && name = placeName then ⟨max 1 next, none⟩ else state.place }

def environment (state : State) : List (String × String) :=
  Parameter.handedOn state.parameters

def currentPath (state : State) : String := Files.pathTo state.current

def allowed (state : State) (mode : Nat) : Nat := Permission.without state.mask mode

end State

end ChartManifests.Program
