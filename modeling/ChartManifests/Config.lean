import ChartManifests.Text.CodePoint
/-!
What a chart's configuration says: which chart, from where, and how it is rendered. An option that
the configuration does not set is absent.
-/

namespace ChartManifests

structure TextMap where
  entries : List (Text × Text)
  unique : (entries.map Prod.fst).Nodup
deriving DecidableEq

/-- The identity of a configuration, which does not influence what is rendered. -/
structure ObjectMeta where
  name : Option Text
  space : Option Text
  labels : Option TextMap
  annotations : Option TextMap
deriving DecidableEq

structure Config where
  chartName : Option Text
  chartVersion : Option Text
  chartRepoName : Option Text
  chartRepoUrl : Option Text
  chartHome : Option Text
  releaseName : Option Text
  releaseNamespace : Option Text
  values : Option Text
  extraArgs : Option (List Text)
  helmBin : Option Text
  helmHome : Option Text
  metadata : Option ObjectMeta
  apiVersion : Option Text
  kind : Option Text
deriving DecidableEq

/-- The options that must be text, in the order in which they are checked. -/
inductive Setting
  | chartName
  | chartVersion
  | chartRepoName
  | chartRepoUrl
  | chartHome
  | releaseName
  | releaseNamespace
  | values
  | helmBin
  | helmHome
deriving DecidableEq, Repr

namespace Setting

def all : List Setting :=
  [chartName, chartVersion, chartRepoName, chartRepoUrl, chartHome, releaseName,
    releaseNamespace, values, helmBin, helmHome]

def key : Setting → String
  | chartName => "chartName"
  | chartVersion => "chartVersion"
  | chartRepoName => "chartRepoName"
  | chartRepoUrl => "chartRepoUrl"
  | chartHome => "chartHome"
  | releaseName => "releaseName"
  | releaseNamespace => "releaseNamespace"
  | values => "values"
  | helmBin => "helmBin"
  | helmHome => "helmHome"

end Setting

namespace Config

def empty : Config :=
  ⟨none, none, none, none, none, none, none, none, none, none, none, none, none, none⟩

def setting (config : Config) : Setting → Option Text
  | .chartName => config.chartName
  | .chartVersion => config.chartVersion
  | .chartRepoName => config.chartRepoName
  | .chartRepoUrl => config.chartRepoUrl
  | .chartHome => config.chartHome
  | .releaseName => config.releaseName
  | .releaseNamespace => config.releaseNamespace
  | .values => config.values
  | .helmBin => config.helmBin
  | .helmHome => config.helmHome

end Config

def nonEmpty? (option : Option Text) : Option Text := option.filter (· ≠ [])

namespace TextMap

def putEntry (name text : Text) : List (Text × Text) → List (Text × Text)
  | [] => [(name, text)]
  | entry :: rest =>
    if entry.1 = name then (entry.1, text) :: rest else entry :: putEntry name text rest

theorem mem_names_putEntry (name text other : Text) (entries : List (Text × Text)) :
    other ∈ (putEntry name text entries).map Prod.fst ↔
      other = name ∨ other ∈ entries.map Prod.fst := by
  induction entries with
  | nil => simp [putEntry]
  | cons entry rest ih =>
    simp only [putEntry]
    by_cases same : entry.1 = name
    · simp only [if_pos same, List.map_cons, List.mem_cons]
      constructor
      · rintro (found | found)
        · exact Or.inl (found.trans same)
        · exact Or.inr (Or.inr found)
      · rintro (found | found | found)
        · exact Or.inl (found.trans same.symm)
        · exact Or.inl found
        · exact Or.inr found
    · simp only [if_neg same, List.map_cons, List.mem_cons, ih]
      constructor
      · rintro (found | found | found)
        · exact Or.inr (Or.inl found)
        · exact Or.inl found
        · exact Or.inr (Or.inr found)
      · rintro (found | found | found)
        · exact Or.inr (Or.inl found)
        · exact Or.inl found
        · exact Or.inr (Or.inr found)

theorem nodup_putEntry (name text : Text) (entries : List (Text × Text))
    (unique : (entries.map Prod.fst).Nodup) :
    ((putEntry name text entries).map Prod.fst).Nodup := by
  induction entries with
  | nil => simp [putEntry]
  | cons entry rest ih =>
    simp only [List.map_cons, List.nodup_cons] at unique
    simp only [putEntry]
    by_cases same : entry.1 = name
    · simpa only [if_pos same, List.map_cons, List.nodup_cons] using unique
    · simp only [if_neg same, List.map_cons, List.nodup_cons]
      refine ⟨?_, ih unique.2⟩
      rw [mem_names_putEntry]
      rintro (found | found)
      · exact same found
      · exact unique.1 found

def empty : TextMap := ⟨[], List.nodup_nil⟩

def put (map : TextMap) (name text : Text) : TextMap :=
  ⟨putEntry name text map.entries, nodup_putEntry name text map.entries map.unique⟩

def ofEntries (entries : List (Text × Text)) : TextMap :=
  entries.foldl (fun map entry => map.put entry.1 entry.2) empty

end TextMap

end ChartManifests
