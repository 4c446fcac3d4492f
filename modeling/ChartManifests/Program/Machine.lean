import ChartManifests.Program.Interpreter
import ChartManifests.Program.Scheduler
import ChartManifests.Runner.Subprocess
/-!
A machine that runs utilities and scripts on the tree of files of a host.
-/

namespace ChartManifests.Program

def depth : Nat := 10 ^ 15

def candidates (launch : Launch) : List String :=
  let name := launch.words.headD ""
  if hasSlash name then [name]
  else
    (Text.splitAt ':' ((launch.environment.lookup "PATH").getD defaultPath).toList).map
      fun directory => below (String.ofList directory) name

def longestWord : Nat := 131071

def hasLongWord (launch : Launch) : Bool :=
  launch.words.any fun word => longestWord < word.length

def firstIdentity : Nat := 4096

def tellerIdentity : Nat := 4000

def firstSurroundings (launch : Launch) (files : Files) : Surroundings where
  files := files
  streams := #[.device .null, .collected [], .collected []]
  channels := #[]
  queues := []
  clock := 0
  limit := launch.limit
  running := [firstIdentity]
  finished := []
  next := firstIdentity + 1
  signals := []

def beginning (host : Host) (launch : Launch) (files : Files) : State where
  toSurroundings := firstSurroundings launch files
  identity := firstIdentity
  parent := tellerIdentity
  group := firstIdentity
  shell := firstIdentity
  current := host.current
  path := Files.pathTo host.current
  descriptors := [(0, 0), (1, 1), (2, 2)]
  kept := []
  parameters := launch.environment.map fun entry =>
    { Parameter.unknown entry.1 with content := some (.text entry.2), exported := true }
  arguments := []
  place := .first
  title := launch.words.headD ""
  locals := none
  calls := 0
  functions := []
  aliases := []
  traps := []
  options := []
  mask := Permission.usualMask
  shielded := false
  loops := 0
  status := 0
  outputStatus := 0
  latest := none
  jobs := []
  line := 1
  reached := 1
  speaker := none
  forked := 0
  answer := .usual
  arrived := []
  flooded := false
  unwritten := none
  extras := none

def collectedIn (shared : Surroundings) (number : Nat) : Text.Bytes :=
  match shared.streams[number]? with
  | some (.collected chunks) => joined chunks
  | _ => []

def isAbsence (fault : FileFault) : Bool := fault = .missing || fault = .notDirectory

/-- The fault to report when no candidate could be started: the first that is more than an
absence, and otherwise the last. -/
def reportedFault (faults : List FileFault) : FileFault :=
  ((faults.find? fun fault => !isAbsence fault).or faults.getLast?).getD .missing

def firstResolved (state : State) (words : List String) :
    List String → Except (List FileFault) Resolved
  | [] => .error []
  | path :: rest =>
    match resolved state false path words with
    | .ok found => .ok found
    | .error fault => (firstResolved state words rest).mapError (fault :: ·)

def machine (host : Host) : Machine := fun launch files =>
  let state := beginning host launch files
  match firstResolved state launch.words (candidates launch) with
  | .error faults => (.notStarted (.program (reportedFault faults)), files)
  | .ok found =>
    if hasLongWord launch then (.notStarted (.program .tooManyArguments), files)
    else
      match runAlone state (runResolved depth found) with
      | .overdue shared => (.overdue, shared.files)
      | .finished finish shared =>
        let status : Int := match finish with
          | .status status => status
          | .signal number => -number
        (.exited status (collectedIn shared 1) (collectedIn shared 2), shared.files)

end ChartManifests.Program
