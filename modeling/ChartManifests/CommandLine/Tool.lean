import ChartManifests.CommandLine.Task
import ChartManifests.Generator
/-!
The tool: it carries out what its arguments ask for, prints, and ends with a status. The file that
the manifests go to is only touched when there are manifests.
-/

namespace ChartManifests.CommandLine

/-- What a run of the tool shows. Its ending is a status, or a failure that it does not deal
with. -/
structure Report where
  ending : Except Failure Nat
  output : Text.Bytes
  errors : Text.Bytes

structure Printed where
  output : Text.Bytes
  errors : Text.Bytes

def readConfigFile (host : Host) (input : Text.Bytes) (name : String) : Action Text.Bytes :=
  .of fun world =>
    let result : Except Failure Text.Bytes :=
      if name = "-" then .ok input
      else if name.toList.contains '\x00' then .error (.defect .nullCharacter)
      else
        match world.files.find host.current (Text.inOctets name) with
        | .error fault => .error (.file fault name)
        | .ok (_, .directory) => .error (.file .isDirectory name)
        | .ok (_, .file content) => .ok content
        | .ok (_, .device .input) => .ok input
        | .ok _ => .ok []
    (result, world)

def deliver (host : Host) (target : Given) (content : Text.Bytes) : Action Printed :=
  .of fun world =>
    match target with
    | .nothing => (.error (.path .noFile), world)
    | .text name =>
      if name.toList.contains '\x00' then (.error (.defect .nullCharacter), world)
      else
        match world.files.replace host.current (Text.inOctets name) content with
        | .error fault => (.error (.file fault name), world)
        | .ok (.stored files) => (.ok ⟨[], []⟩, { world with files })
        | .ok (.taken .full) =>
          (if content.isEmpty then .ok ⟨[], []⟩ else .error (.unwritten .noSpace), world)
        | .ok (.taken .output) => (.ok ⟨content, []⟩, world)
        | .ok (.taken .errors) => (.ok ⟨[], content⟩, world)
        | .ok (.taken _) => (.ok ⟨[], []⟩, world)

def runGenerate (host : Host) (runner : Runner) (input : Text.Bytes) (configFile : String)
    (outputFile : Given) : Action Printed := do
  let content ← readConfigFile host input configFile
  let manifests ← Action.of fun world =>
    let configured := Generator.configure host (.stream (.bytes content)) .unconfigured world
    match configured.result with
    | .error failure => (.error failure, configured.world)
    | .ok () =>
      let reply := configured.generator.generate host runner configured.world
      (reply.result, reply.world)
  deliver host outputFile manifests

/-- The configuration that a check of the version needs; a chart has to be named in every one. -/
def versionDocument (helmBin : Given) : Value :=
  let value : Value := match helmBin with
    | .text name => .text name
    | .nothing => .list none []
  .map none [(.text "chartName", .text "version"), (.text "helmBin", value)]

def runVersion (host : Host) (runner : Runner) (helmBin : Given) : Action Printed := do
  let (config, directory) ← Config.resolve host (.document (versionDocument helmBin))
  let version ← directory.within (Helm.checkVersion runner config)
  pure ⟨Text.Utf8.encode ("v" ++ version ++ "\n"), []⟩

def Task.run (host : Host) (runner : Runner) (input : Text.Bytes) : Task → Action Printed
  | .generate configFile outputFile => runGenerate host runner input configFile outputFile
  | .version helmBin => runVersion host runner helmBin

def eventLine (lasted : Nat) (event : Event) : Text :=
  event.level.name ++ ":helm_inflator." ++ event.part ++ ":" ++ event.message lasted ++ "\n"

def logText (host : Host) (level : Option Level) (first : Nat) (log : List Event) : Text :=
  match level with
  | none => []
  | some least =>
    (log.zipIdx.drop first).flatMap fun entry =>
      if least.rank ≤ entry.1.level.rank then eventLine (host.durations entry.2) entry.1 else []

def failureText (level : Option Level) (failure : Failure) : Text :=
  (if level = some .debug then "<traceback>\n" else "" : String)
    ++ toolName ++ " error:  " ++ failure.message ++ "\n"

def printed (text : Text) : Text.Bytes := Text.Utf8.encode text.writable

def Order.run (host : Host) (runner : Runner) (input : Text.Bytes) (order : Order)
    (world : World) : Report × World :=
  let (result, after) := (order.task.run host runner input).run world
  let shown := printed (logText host order.level world.log.length after.log)
  let report : Report := match result with
    | .ok printed => ⟨.ok 0, printed.output, shown ++ printed.errors⟩
    | .error failure =>
      if failure.isReported then
        ⟨.ok 1, [], shown ++ printed (failureText order.level failure)⟩
      else ⟨.error failure, [], shown⟩
  (report, after)

def run (host : Host) (runner : Runner) (arguments : List String) (input : Text.Bytes)
    (world : World) : Report × World :=
  match orderOf arguments with
  | .ok order => order.run host runner input world
  | .error (.shown text) => (⟨.ok 0, Text.Utf8.encode text, []⟩, world)
  | .error (.refused text) => (⟨.ok 2, [], Text.Utf8.encode text⟩, world)

end ChartManifests.CommandLine
