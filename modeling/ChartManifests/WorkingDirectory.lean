import ChartManifests.Path
import ChartManifests.Trace
/-!
Working directories: each run has one of its own, which is new and empty when the run begins and
removed with everything in it when the run ends.
-/

namespace ChartManifests

structure WorkingDirectory where
  location : Location
deriving DecidableEq, Repr

namespace WorkingDirectory

def namePrefix : String := "helm-inflator-"

def name (host : Host) (number : Nat) : String := namePrefix ++ host.temporaryNames number

def numbered (host : Host) (number : Nat) : WorkingDirectory :=
  ⟨host.temporary ++ [name host number]⟩

def path (directory : WorkingDirectory) : Path :=
  ⟨.root, directory.location.map Text.ofString⟩

def ownMode : Nat := 0o700

def fault? (host : Host) (world : World) : Option FileFault :=
  match host.refusals world.directories with
  | some fault => some fault
  | none =>
    match world.files.standing? host.temporary with
    | some .directory =>
      if (world.files.standing? (numbered host world.directories).location).isSome then
        some .occupied
      else none
    | some _ => some .notDirectory
    | none => some .missing

def create (host : Host) : Action WorkingDirectory :=
  .of fun world =>
    let directory := numbered host world.directories
    let asked := { world with directories := world.directories + 1 }
    match fault? host world with
    | some fault => (.error (.noDirectory fault directory.path.text), asked)
    | none =>
      let made := { asked with files := world.files.add directory.location .directory ownMode }
      (.ok directory, made.record (.directoryCreated directory.path.text))

/-- Removes a directory with everything in it. It may be gone already, and what took its place is
left alone. -/
def remove (directory : WorkingDirectory) (world : World) : World :=
  let recorded := world.record (.directoryRemoved directory.path.text)
  { recorded with files := recorded.files.removeDirectory directory.location }

def cleanup (directory : WorkingDirectory) : Action Unit :=
  .of fun world => (.ok (), directory.remove world)

def within {α : Type} (directory : WorkingDirectory) (body : Action α) : Action α :=
  body.andFinally directory.remove

def isPresent (directory : WorkingDirectory) (world : World) : Bool :=
  world.files.hasDirectory [] (Files.pathTo directory.location)

end WorkingDirectory

end ChartManifests
