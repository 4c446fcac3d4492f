import ChartManifests.CommandLine.Tool
import ChartManifests.Host.Ordinary
import ChartManifests.Program.Machine
/-!
The tool as a program. It hands the files that its arguments and the search path name over to
`CommandLine.run`, and writes back what became of them.
-/

namespace ChartManifests.Main

def locationOf (path : String) : Location := Files.steps (Text.inOctets path)

def readIfThere (path : String) : IO (Option Text.Bytes) :=
  try
    return some (← IO.FS.readBinFile path).toList
  catch _ => return none

def addFile (host : Host) (files : Files) (path : String) (executable : Bool) : IO Files := do
  match ← readIfThere path with
  | some content =>
    match files.writeWithParents host.current (Text.inOctets path) content executable with
    | .ok added => return added
    | .error _ => return files
  | none => return files

def programPaths (searchPath : String) : List String :=
  (Text.splitAt ':' searchPath.toList).map fun directory =>
    Program.below (String.ofList directory) defaultBin

def environmentNames : List String := ["PATH", "HOME", "LANG", "TMPDIR", "TEMP", "TMP", "USER"]

def temporaryNames : List String := ["TMPDIR", "TEMP", "TMP"]

def hostHere : IO Host := do
  let directory ← IO.currentDir
  let environment ← environmentNames.filterMapM fun name => do
    return (← IO.getEnv name).map fun value => (name, value)
  let moment ← IO.monoNanosNow
  let usual : Host := {
    current := locationOf directory.toString
    environment
    temporaryNames := fun number => toString moment ++ "_" ++ toString number }
  let told := (temporaryNames.filterMap fun name => environment.lookup name).filter (· ≠ "")
  let temporary := (told.head?.map locationOf).getD usual.temporary
  if plain : temporary.all Files.isOwnName = true then return { usual with temporary, plain }
  else return usual

def treeWith (directories : List Location) : Files :=
  directories.foldl (fun files place =>
    match files.makeDirectory [] (Files.pathTo place) with
    | .ok made => made
    | .error _ => files) Files.ordinary

end ChartManifests.Main

open ChartManifests ChartManifests.Main in
def main (arguments : List String) : IO UInt32 := do
  let host ← hostHere
  let input ← if arguments.contains "-" then
      (do return (← (← IO.getStdin).readBinToEnd).toList)
    else pure []
  let rooted := treeWith [host.current, host.temporary]
  let searchPath := (host.environment.lookup "PATH").getD Program.defaultPath
  let withPrograms ← (programPaths searchPath).foldlM (fun files path =>
    addFile host files path true) rooted
  let before ← arguments.foldlM (fun files path => addFile host files path false) withPrograms
  let runner := Runner.subprocess (Program.machine host) host Runner.usualLimit
  let (report, after) := CommandLine.run host runner arguments input ⟨before, 0, [], []⟩
  for path in arguments do
    match after.files.content? host.current (Text.inOctets path) with
    | some content =>
      if before.content? host.current (Text.inOctets path) ≠ some content then
        IO.FS.writeBinFile path ⟨content.toArray⟩
    | none => pure ()
  (← IO.getStdout).write ⟨report.output.toArray⟩
  (← IO.getStderr).write ⟨report.errors.toArray⟩
  match report.ending with
  | .ok status => return status.toUInt32
  | .error failure =>
    IO.eprintln failure.message.writable
    return 1
