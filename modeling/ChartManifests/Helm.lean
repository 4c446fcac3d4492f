import ChartManifests.Config.Defaults
import ChartManifests.Runner
import ChartManifests.Trace
import ChartManifests.Version
/-!
Helm's part in inflating a chart: its version is checked, the chart is fetched unless it is there,
and the chart is rendered.
-/

namespace ChartManifests.Helm

def versionArgs : List Text := ["version", "-c", "--short"]

def flag (name : String) (value : Option Text) : List Text :=
  match nonEmpty? value with
  | some value => [name, value]
  | none => []

/-- The name that a chart is fetched by: alone with the address of a repository, and below the
name of one otherwise. -/
def reference (config : Config) : Option Text :=
  match nonEmpty? config.chartRepoUrl with
  | some _ => config.chartName
  | none => some (formatted config.chartRepoName ++ "/" ++ formatted config.chartName)

def pullArgs (config : Config) : List (Option Text) :=
  ["pull", "--untar", "--untardir"].map (some ∘ Text.ofString) ++ [config.chartHome]
    ++ (flag "--version" config.chartVersion).map some
    ++ (flag "--repo" config.chartRepoUrl).map some ++ [reference config]

def templateArgs (config : Config) : Except PathDefect (List Text) := do
  let directory ← config.chartDirectory
  .ok ([Text.ofString "template"] ++ (nonEmpty? config.releaseName).toList ++ [directory]
    ++ flag "--namespace" config.releaseNamespace ++ flag "--values" config.values
    ++ config.extraArgs.getD [])

def command (config : Config) (purpose : Purpose) (args : List (Option Text)) : Command :=
  ⟨config.helmBin :: args, purpose, config.helmEnvironment⟩

def versionCommand (config : Config) : Command := command config .helm (versionArgs.map some)

def pullCommand (config : Config) : Command := command config .fetch (pullArgs config)

def templateCommand (config : Config) : Except PathDefect Command :=
  (templateArgs config).map fun args => command config .render (args.map some)

def checkVersion (runner : Runner) (config : Config) : Action String := do
  let output ← traced "helm version" config.chartName (runner.run (versionCommand config))
  let version ← Action.lift (Version.supported (Text.Utf8.decodeLossy output))
  Action.record (.versionFound version)
  pure version

def hasLocalChart (host : Host) (config : Config) : Action Bool := do
  let directory ← Action.lift (config.chartDirectory.mapError Failure.path)
  .of fun world => (.ok (host.hasDirectory world.files directory), world)

def pull (runner : Runner) (config : Config) : Action Unit := do
  discard (traced "helm pull" config.chartName (runner.run (pullCommand config)))

def ensureChart (host : Host) (runner : Runner) (config : Config) : Action Bool := do
  if ← hasLocalChart host config then
    let directory ← Action.lift (config.chartDirectory.mapError Failure.path)
    Action.record (.chartFound directory)
    pure false
  else
    pull runner config
    pure true

def template (runner : Runner) (config : Config) : Action Text.Bytes :=
  traced "helm template" config.chartName do
    let command ← Action.lift ((templateCommand config).mapError Failure.path)
    runner.run command

end ChartManifests.Helm
