import ChartManifests.Proofs.Config.RoundTrip
import ChartManifests.Proofs.Path
import ChartManifests.Proofs.Resolve
/-!
What the defaults do to a configuration. They keep what is set, set what is left open of five
options, and leave the others alone; a configuration with all five set has nothing left for them. So
a configuration that was resolved, written as a document and resolved again is the same one, in
whatever directory that happens.
-/

namespace ChartManifests

namespace Path

theorem text_ne_nil {path : Path} {name : Text} (present : name ∈ path.names) (some : name ≠ []) :
    path.text ≠ [] := by
  obtain ⟨first, others, rfl⟩ := List.exists_cons_of_ne_nil some
  have inside : first ∈ Text.joinWith slash path.names :=
    Text.mem_joinWith present List.mem_cons_self
  intro empty
  rw [text_of_named (List.ne_nil_of_mem present), List.append_eq_nil_iff] at empty
  rw [empty.2] at inside
  cases inside

theorem Proper.text_ne_nil {path : Path} (proper : path.Proper) : path.text ≠ [] := by
  by_cases unnamed : path.names = []
  · obtain ⟨origin, names⟩ := path
    cases unnamed
    cases origin <;> exact List.cons_ne_nil _ _
  · obtain ⟨name, present⟩ := List.exists_mem_of_ne_nil _ unnamed
    exact Path.text_ne_nil present (proper name present).ne_nil

theorem text_child_ne_nil (path : Path) {name : Text}
    (single : ofText name = ⟨.relative, [name]⟩) (some : name ≠ []) :
    (path.child name).text ≠ [] := by
  refine text_ne_nil ?_ some
  rw [child_relative (by rw [single]), single]
  exact List.mem_append_right _ (List.mem_singleton.mpr rfl)

end Path

namespace Config

def defaulted : List Setting := [.chartHome, .chartRepoName, .helmBin, .helmHome, .values]

def Filled (config : Config) : Prop :=
  ∀ option ∈ defaulted, ∃ text, config.setting option = some text ∧ text ≠ []

/-- A configuration is another one in which options with a default were set that were left open. -/
structure Completion (given complete : Config) : Prop where
  kept : ∀ option text, given.setting option = some text → text ≠ [] →
    complete.setting option = some text
  others : complete = { given with
    chartHome := complete.chartHome
    chartRepoName := complete.chartRepoName
    helmBin := complete.helmBin
    helmHome := complete.helmHome
    values := complete.values }
  filled : complete.Filled

theorem getD_nonEmpty? {option : Option Text} {text : Text} (set : option = some text)
    (some : text ≠ []) (default : Text) : (nonEmpty? option).getD default = text := by
  rw [nonEmpty?_eq_some.mpr ⟨set, some⟩, Option.getD_some]

theorem getD_nonEmpty?_ne_nil (option : Option Text) {default : Text} (some : default ≠ []) :
    (nonEmpty? option).getD default ≠ [] := by
  cases set : nonEmpty? option with
  | none => exact some
  | some text => exact (nonEmpty?_eq_some.mp set).2

variable {config : Config}

theorem completed_kept (root : Path) (name : Text) {option : Setting} {text : Text}
    (set : config.setting option = some text) (some : text ≠ []) :
    (config.completed root name).setting option = Option.some text := by
  cases option with
  | chartHome | chartRepoName | helmBin | helmHome | values =>
    exact congrArg Option.some (getD_nonEmpty? set some _)
  | _ => exact set

theorem completed_filled (config : Config) (root : Path) (name : Text) :
    (config.completed root name).Filled := by
  simp only [Filled, defaulted, List.forall_mem_cons]
  refine ⟨⟨_, rfl, ?_⟩, ⟨_, rfl, ?_⟩, ⟨_, rfl, ?_⟩, ⟨_, rfl, ?_⟩, ⟨_, rfl, ?_⟩, nofun⟩
  · exact getD_nonEmpty?_ne_nil _ (Path.text_child_ne_nil root (by decide) (by decide))
  · exact getD_nonEmpty?_ne_nil _ (by decide)
  · exact getD_nonEmpty?_ne_nil _ (by decide)
  · exact getD_nonEmpty?_ne_nil _ (Path.text_child_ne_nil root (by decide) (by decide))
  · exact getD_nonEmpty?_ne_nil _ (Path.text_child_ne_nil _ (by decide) (by decide))

theorem completion_completed (config : Config) (root : Path) (name : Text) :
    config.Completion (config.completed root name) :=
  ⟨fun _ _ => completed_kept root name, rfl, config.completed_filled root name⟩

theorem withDefaults_of_filled (filled : config.Filled) (root : Path) :
    config.withDefaults root = .ok config := by
  simp only [Filled, defaulted, List.forall_mem_cons] at filled
  obtain ⟨⟨home, hasHome, someHome⟩, ⟨repo, hasRepo, someRepo⟩, ⟨bin, hasBin, someBin⟩,
    ⟨own, hasOwn, someOwn⟩, ⟨values, hasValues, someValues⟩, -⟩ := filled
  simp only [setting] at hasHome hasRepo hasBin hasOwn hasValues
  simp only [withDefaults, nonEmpty?_eq_some.mpr ⟨hasValues, someValues⟩,
    getD_nonEmpty? hasHome someHome, getD_nonEmpty? hasRepo someRepo,
    getD_nonEmpty? hasBin someBin, getD_nonEmpty? hasOwn someOwn, bind, Except.bind]
  rw [← hasHome, ← hasRepo, ← hasBin, ← hasOwn, ← hasValues]

theorem resolve_toDocument {name : Text} (named : config.chartName = some name) (some : name ≠ [])
    (filled : config.Filled) {host : Host} {world : World}
    (able : WorkingDirectory.fault? host world = none) :
    (resolve host (.document config.toDocument)).run world =
      (.ok (config, WorkingDirectory.numbered host world.directories),
        WorkingDirectory.made host world) := by
  have accepted : readNamed (.document config.toDocument) = .ok config := by
    simp only [readNamed, read, readDocument, ofDocument_toDocument, mapError_ok, bind, Except.bind,
      nonEmpty?_eq_some.mpr ⟨named, some⟩]
  have complete : ∀ root, config.completed root name = config := by
    intro root
    have unchanged := withDefaults_of_filled filled root
    rw [withDefaults_of_name named] at unchanged
    exact Except.ok.inj unchanged
  rw [resolve_ok accepted named able, complete]

/-- The defaults complete a configuration that names a chart, and whatever they lie below, they
change nothing in what was completed before. So a configuration that something was resolved to is
what its own document is resolved to, on any host and in any new directory. -/
theorem resolve_settles :
    (∀ (config : Config) (name : Text) (root : Path), config.chartName = some name → name ≠ [] →
      ∃ complete, config.withDefaults root = .ok complete ∧ config.Completion complete ∧
        ∀ other, complete.withDefaults other = .ok complete) ∧
    ∀ (host : Host) (raw : RawConfig) (start after : World) (config : Config)
      (directory : WorkingDirectory),
      (resolve host raw).run start = (.ok (config, directory), after) →
      ∀ (other : Host) (world : World), WorkingDirectory.fault? other world = none →
        (resolve other (.document config.toDocument)).run world =
          (.ok (config, WorkingDirectory.numbered other world.directories),
            WorkingDirectory.made other world) := by
  constructor
  · intro config name root named _
    have completion := config.completion_completed root name
    exact ⟨_, withDefaults_of_name named root, completion,
      withDefaults_of_filled completion.filled⟩
  · intro host raw start after config directory resolved other world able
    obtain ⟨⟨given, name, accepted, named, rfl⟩, -⟩ := resolve_cases resolved
    obtain ⟨own, same, some⟩ := readNamed_name accepted
    cases Option.some.inj (named.symm.trans same)
    have filled := given.completed_filled directory.path name
    refine resolve_toDocument ?_ some filled able
    exact named

theorem resolve_settles_of_home :
    let host : Host := { current := [], environment := [], temporaryNames := fun _ => "x" }
    let files := Files.empty.add ["tmp"] .directory 0o777
    let start : World := ⟨files, 0, [], []⟩
    let later : World := ⟨files, 7, [], []⟩
    let raw : RawConfig := .document (.map none [(.text "chartName", .text "nginx"),
      (.text "chartHome", .text "charts"), (.text "helmBin", .text "")])
    ∃ given config directory after, readNamed raw = .ok given ∧
      (resolve host raw).run start = (.ok (config, directory), after) ∧
      config.values = some "charts/nginx/values.yaml" ∧ config.helmBin = some "helm" ∧
      WorkingDirectory.fault? host later = none ∧
      (resolve host (.document config.toDocument)).run later =
        (.ok (config, WorkingDirectory.numbered host 7), WorkingDirectory.made host later) ∧
      given.chartName = some "nginx" ∧
      ∃ complete, given.withDefaults directory.path = .ok complete ∧ given.Completion complete ∧
        ∀ other, complete.withDefaults other = .ok complete := by
  intro host files start later raw
  obtain ⟨given, read, named⟩ :
      ∃ given, readNamed raw = .ok given ∧ given.chartName = some "nginx" := ⟨_, rfl, rfl⟩
  obtain ⟨config, directory, after, resolved, values, bin⟩ : ∃ config directory after,
      (resolve host raw).run start = (.ok (config, directory), after) ∧
      config.values = some "charts/nginx/values.yaml" ∧ config.helmBin = some "helm" :=
    ⟨_, _, _, rfl, rfl, rfl⟩
  have able : WorkingDirectory.fault? host later = none := rfl
  exact ⟨given, config, directory, after, read, resolved, values, bin, able,
    resolve_settles.2 host raw start after config directory resolved host later able, named,
    resolve_settles.1 given "nginx" directory.path named (by decide)⟩

end Config

end ChartManifests
