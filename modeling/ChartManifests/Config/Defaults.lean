import ChartManifests.Config
import ChartManifests.Failure
import ChartManifests.Path
/-!
What holds where a configuration sets nothing: charts and helm's own files are kept below a
directory of the run, the repository is the stable one, and the values are those of the chart.
-/

namespace ChartManifests

def defaultBin : String := "helm"

def defaultRepoName : String := "stable"

def valuesFile : String := "values.yaml"

def chartHomeName : String := "chart"

def helmHomeName : String := ".helm"

namespace Config

def chartPath (home name : Option Text) : Except PathDefect Path :=
  match home, name with
  | none, _ => .error .noHome
  | some _, none => .error .noName
  | some home, some name => .ok ((Path.ofText home).child name)

def chartDirectory (config : Config) : Except PathDefect Text :=
  (chartPath config.chartHome config.chartName).map Path.text

def helmEnvironment (config : Config) : List (String × Option Text) :=
  let home := formatted config.helmHome
  [("HELM_CONFIG_HOME", config.helmHome), ("HELM_CACHE_HOME", some (home ++ "/.cache")),
    ("HELM_DATA_HOME", some (home ++ "/.data"))]

/-- Sets what a configuration leaves open, with directories below `root`. An empty text counts as
left open. -/
def withDefaults (config : Config) (root : Path) : Except PathDefect Config := do
  let chartHome := (nonEmpty? config.chartHome).getD (root.child chartHomeName).text
  let values ← match nonEmpty? config.values with
    | some values => .ok values
    | none => do
      let directory ← chartPath (some chartHome) config.chartName
      .ok (directory.child valuesFile).text
  .ok { config with
    chartHome := some chartHome
    chartRepoName := some ((nonEmpty? config.chartRepoName).getD defaultRepoName)
    helmBin := some ((nonEmpty? config.helmBin).getD defaultBin)
    helmHome := some ((nonEmpty? config.helmHome).getD (root.child helmHomeName).text)
    values := some values }

end Config

end ChartManifests
