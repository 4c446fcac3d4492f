import ChartManifests.Config.Defaults
import ChartManifests.WorkingDirectory
import ChartManifests.Yaml.Stream
/-!
From what is handed over as a configuration to a configuration that is complete. Everything that
can be wrong is checked first; only then is a working directory made, and the defaults lie in it.
-/

namespace ChartManifests

/-- A configuration as it is handed over: as a stream of characters or bytes, or as a document. -/
inductive RawConfig
  | stream (source : Yaml.Source)
  | document (value : Value)

namespace RawConfig

def ofValue : Value → RawConfig
  | .text content => .stream (.text content)
  | .bytes content => .stream (.bytes content)
  | value => .document value

end RawConfig

namespace Config

def failureOf : DocumentFault → Failure
  | .invalid fault => .config fault
  | .keyKind kind => .keyKind kind
  | .unwritable => .unwritable

def loadDocument (source : Yaml.Source) : Except Failure Value :=
  match Yaml.load source with
  | .ok value => .ok value
  | .error .malformed => .error (.config .unreadable)
  | .error fault => .error (.scalar fault)

def readDocument (value : Value) : Except Failure Config :=
  (ofDocument value).mapError failureOf

def read : RawConfig → Except Failure Config
  | .stream source => do readDocument (← loadDocument source)
  | .document value => readDocument value

def readNamed (raw : RawConfig) : Except Failure Config := do
  let config ← read raw
  match nonEmpty? config.chartName with
  | some _ => .ok config
  | none => .error .noChartName

def resolve (host : Host) (raw : RawConfig) : Action (Config × WorkingDirectory) := do
  let config ← Action.lift (readNamed raw)
  let directory ← WorkingDirectory.create host
  let complete ← Action.lift ((config.withDefaults directory.path).mapError Failure.path)
  pure (complete, directory)

end Config

end ChartManifests
