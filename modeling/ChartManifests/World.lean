import ChartManifests.Failure
import ChartManifests.Host.Files
import ChartManifests.Log
import ChartManifests.Text.Utf8
/-!
What an operation can see and change: the tree of files, how many working directories were asked for,
what was recorded, and the commands that were issued. An operation ends with a result or with a
failure, and in both cases with the world that it leaves behind.
-/

namespace ChartManifests

def Files.isOwnName (name : String) : Bool :=
  name ≠ "" && name ≠ "." && name ≠ ".." && Text.isPlain name.toList
    && !name.toList.contains separator && !name.toList.contains '\x00'

/-- What stays the same on a host. It makes temporary directories in one place, without links on the
way to it, and makes up a name for each, the last one that it tries; `refusals` are those that it
does not make for reasons of its own. The steps of a run last as long as `durations` says, in
hundredths of a second, by the number of the event that ends a step. -/
structure Host where
  current : Location
  environment : List (String × String)
  temporary : Location := ["tmp"]
  temporaryNames : Nat → String
  refusals : Nat → Option FileFault := fun _ => none
  durations : Nat → Nat := fun _ => 0
  plain : temporary.all Files.isOwnName = true := by decide

/-- Whether a text leads to a directory. One without a form outside of the program leads
nowhere. -/
def Host.hasDirectory (host : Host) (files : Files) (path : Text) : Bool :=
  match path.external with
  | .ok name => files.hasDirectory host.current name
  | .error _ => false

structure World where
  files : Files
  directories : Nat
  log : List Event
  commands : List Command

namespace World

def record (world : World) (event : Event) : World :=
  { world with log := world.log ++ [event] }

def recordAll (world : World) (events : List Event) : World :=
  { world with log := world.log ++ events }

end World

abbrev Action (α : Type) := ExceptT Failure (StateM World) α

namespace Action

def run {α : Type} (action : Action α) (world : World) : Except Failure α × World :=
  (ExceptT.run action).run world

def of {α : Type} (step : World → Except Failure α × World) : Action α :=
  ExceptT.mk fun world => step world

def fail {α : Type} (failure : Failure) : Action α := of fun world => (.error failure, world)

def lift {α : Type} (result : Except Failure α) : Action α := of fun world => (result, world)

def record (event : Event) : Action Unit := of fun world => (.ok (), world.record event)

def andFinally {α : Type} (action : Action α) (change : World → World) : Action α :=
  of fun world =>
    let (result, after) := action.run world
    (result, change after)

end Action

end ChartManifests
