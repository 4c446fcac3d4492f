import ChartManifests.Helm
import ChartManifests.Resolve
/-!
The generator: it is configured, and then it generates once. Whatever becomes of a run, its
working directory is removed.
-/

namespace ChartManifests

/-- A generator holds its configuration once it has one, and the directory of the run that has not
begun. -/
structure Generator where
  config? : Option Config
  directory? : Option WorkingDirectory

structure Reply (α : Type) where
  result : Except Failure α
  generator : Generator
  world : World

namespace Generator

@[match_pattern] abbrev unconfigured : Generator := ⟨none, none⟩

@[match_pattern] abbrev ready (config : Config) (directory : WorkingDirectory) : Generator :=
  ⟨some config, some directory⟩

@[match_pattern] abbrev spent (config : Config) : Generator := ⟨some config, none⟩

def config (generator : Generator) : Except Failure Config :=
  match generator.config? with
  | some config => .ok config
  | none => .error .notConfigured

def discardDirectory (generator : Generator) (world : World) : World :=
  match generator.directory? with
  | some directory => directory.remove world
  | none => world

def configure (host : Host) (raw : RawConfig) (generator : Generator) (world : World) :
    Reply Unit :=
  match (Config.resolve host raw).run (generator.discardDirectory world) with
  | (.ok (config, directory), after) => ⟨.ok (), ⟨some config, some directory⟩, after⟩
  | (.error failure, after) => ⟨.error failure, ⟨none, none⟩, after⟩

/-- Inflates a chart: checks helm, fetches the chart unless it is there, and renders it. -/
def inflate (host : Host) (runner : Runner) (config : Config) : Action Text.Bytes :=
  traced "generate" config.chartName do
    discard (Helm.checkVersion runner config)
    if ← Helm.ensureChart host runner config then
      Action.record (.chartPulled (formatted config.chartName))
    Helm.template runner config

def generate (host : Host) (runner : Runner) (generator : Generator) (world : World) :
    Reply Text.Bytes :=
  match generator.config with
  | .error failure => ⟨.error failure, generator, world⟩
  | .ok config =>
    match generator.directory? with
    | none => ⟨.error (.alreadyRun config.chartName), generator, world⟩
    | some directory =>
      let (result, after) := (directory.within (inflate host runner config)).run world
      ⟨result, { generator with directory? := none }, after⟩

def readObjects (chart : Option Text) (output : Text.Bytes) : Except Failure (List Value) :=
  match Yaml.loadAll (.bytes output) with
  | .ok values => .ok (values.filter fun value => match value with
    | .null => false
    | _ => true)
  | .error .malformed => .error (.unreadableOutput chart)
  | .error fault => .error (.scalar fault)

def objects (host : Host) (runner : Runner) (generator : Generator) (world : World) :
    Reply (List Value) :=
  let reply := generator.generate host runner world
  let chart := match reply.generator.config with
    | .ok config => config.chartName
    | .error _ => none
  ⟨reply.result.bind (readObjects chart), reply.generator, reply.world⟩

end Generator

end ChartManifests
