import ChartManifests.Proofs.Action
import ChartManifests.Proofs.Host.Places
import ChartManifests.Proofs.Result
import ChartManifests.Resolve
/-!
What becomes of a raw configuration. A directory is made exactly when the configuration can be read
and names a chart, and nothing can fail behind that point.
-/

namespace ChartManifests

def WorkingDirectory.made (host : Host) (world : World) : World :=
  let directory := numbered host world.directories
  let made := { world with
    files := world.files.add directory.location .directory ownMode
    directories := world.directories + 1 }
  made.record (.directoryCreated directory.path.text)

def WorkingDirectory.unmade (world : World) : World :=
  { world with directories := world.directories + 1 }

namespace WorkingDirectory

variable {host : Host} {before after : World}

theorem fault?_eq_none_iff : fault? host before = none ↔
    host.refusals before.directories = none ∧
      before.files.standing? host.temporary = some .directory ∧
      before.files.standing? (numbered host before.directories).location = none := by
  unfold fault?
  split
  next fault refused => simp [refused]
  next willing =>
    split
    next around => simp [willing, around]
    next entry other around =>
      simp only [reduceCtorEq, willing, around, Option.some.injEq, true_and, false_iff, not_and]
      exact fun same => absurd same other
    next around => simp [around]

theorem create_ok (able : fault? host before = none) :
    (create host).run before = (.ok (numbered host before.directories), made host before) := by
  simp only [create, Action.run_of, able]
  rfl

theorem standing?_made (host : Host) (world : World) (place : Location) :
    (made host world).files.standing? place =
      if place = (numbered host world.directories).location then some .directory
      else world.files.standing? place :=
  Files.standing?_add _ _ _ _ _

theorem create_error {fault : FileFault} (refused : fault? host before = some fault) :
    (create host).run before =
      (.error (.noDirectory fault (numbered host before.directories).path.text),
        unmade before) := by
  simp only [create, Action.run_of, refused]
  rfl

/-- The host is willing to make the next working directory, and there is a place for it, which
nothing has taken. -/
structure Possible (host : Host) (before : World) : Prop where
  tree : before.files.IsTree
  willing : host.refusals before.directories = none
  around : before.files.standing? host.temporary = some .directory
  free : before.files.standing? (numbered host before.directories).location = none

theorem Possible.able (possible : Possible host before) : fault? host before = none :=
  fault?_eq_none_iff.mpr ⟨possible.willing, possible.around, possible.free⟩

/-- A working directory was made: it is new and empty, and everything else is as before. -/
structure Made (directory : WorkingDirectory) (before after : World) : Prop where
  fresh : before.files.standing? directory.location = none
  standing : after.files.node? directory.location = some ⟨.directory, ownMode, before.files.now⟩
  empty : ∀ place, directory.location <+: place → place ≠ directory.location →
    after.files.standing? place = none
  others : ∀ place, place ≠ directory.location →
    after.files.number? place = before.files.number? place ∧
      after.files.node? place = before.files.node? place
  tree : after.files.IsTree
  counted : after.directories = before.directories + 1
  log : after.log = before.log ++ [.directoryCreated directory.path.text]
  commands : after.commands = before.commands

theorem made_of_possible (possible : Possible host before) :
    (numbered host before.directories).Made before (made host before) := by
  have free := possible.free
  constructor
  · exact free
  · exact (before.files.node?_add _ _ _ _).trans (if_pos rfl)
  · rintro place ⟨rest, rfl⟩ other
    refine (before.files.standing?_add _ _ _ _).trans ?_
    rw [if_neg other]
    exact possible.tree.none_behind free
  · intro place other
    exact ⟨(before.files.number?_add _ _ _ _).trans (if_neg other),
      (before.files.node?_add _ _ _ _).trans (if_neg other)⟩
  · refine possible.tree.add free (fun _ => ?_) .directory ownMode
    rw [numbered, List.dropLast_concat]
    exact possible.around
  · rfl
  · rfl
  · rfl

end WorkingDirectory

namespace Config

variable {host : Host} {raw : RawConfig} {world : World}

def completed (config : Config) (root : Path) (name : Text) : Config :=
  let home := (nonEmpty? config.chartHome).getD (root.child chartHomeName).text
  { config with
    chartHome := some home
    chartRepoName := some ((nonEmpty? config.chartRepoName).getD defaultRepoName)
    helmBin := some ((nonEmpty? config.helmBin).getD defaultBin)
    helmHome := some ((nonEmpty? config.helmHome).getD (root.child helmHomeName).text)
    values := some ((nonEmpty? config.values).getD
      (((Path.ofText home).child name).child valuesFile).text) }

def Completes (config : Config) (raw : RawConfig) (root : Path) : Prop :=
  ∃ given name, readNamed raw = .ok given ∧ given.chartName = some name ∧
    config = given.completed root name

theorem withDefaults_of_name {config : Config} {name : Text} (named : config.chartName = some name)
    (root : Path) : config.withDefaults root = .ok (config.completed root name) := by
  simp only [withDefaults, completed, named]
  cases nonEmpty? config.values <;> rfl

/-- The home of charts of a configuration that is completed below a root. -/
def homeBelow (config : Config) (root : Path) : Text :=
  (nonEmpty? config.chartHome).getD (root.child chartHomeName).text

theorem homeBelow_of_unset {config : Config} (unset : nonEmpty? config.chartHome = none)
    (root : Path) : config.homeBelow root = (root.child chartHomeName).text := by
  rw [homeBelow, unset, Option.getD_none]

theorem completed_chartDirectory {config : Config} {name : Text}
    (named : config.chartName = some name) (root : Path) :
    (config.completed root name).chartDirectory =
      .ok ((Path.ofText (config.homeBelow root)).child name).text := by
  simp only [Config.chartDirectory, completed, named]
  rfl

theorem completed_values {config : Config} (unset : nonEmpty? config.values = none) (root : Path)
    (name : Text) : (config.completed root name).values =
      some (((Path.ofText (config.homeBelow root)).child name).child valuesFile).text := by
  simp only [completed, unset, Option.getD_none, homeBelow]

theorem nonEmpty?_eq_some {option : Option Text} {text : Text} :
    nonEmpty? option = some text ↔ option = some text ∧ text ≠ [] := by
  simp [nonEmpty?, Option.filter_eq_some_iff]

/-- What a configuration becomes when it is resolved, on some host and in some world. -/
def ResolvesTo (given config : Config) : Prop :=
  ∃ host raw start directory after, readNamed raw = .ok given ∧
    (resolve host raw).run start = (.ok (config, directory), after)

theorem readNamed_name {config : Config} (accepted : readNamed raw = .ok config) :
    ∃ name, config.chartName = some name ∧ name ≠ [] := by
  simp only [readNamed, bind, Except.bind] at accepted
  split at accepted
  · cases accepted
  · split at accepted
    next read name present =>
      cases accepted
      exact ⟨name, nonEmpty?_eq_some.mp present⟩
    next => cases accepted

theorem resolve_error {failure : Failure} (refused : readNamed raw = .error failure) :
    (resolve host raw).run world = (.error failure, world) := by
  simp only [resolve, Action.run_bind, Action.run_lift, refused]

theorem resolve_ok {config : Config} {name : Text} (accepted : readNamed raw = .ok config)
    (named : config.chartName = some name) (able : WorkingDirectory.fault? host world = none) :
    (resolve host raw).run world =
      (.ok (config.completed (WorkingDirectory.numbered host world.directories).path name,
        WorkingDirectory.numbered host world.directories), WorkingDirectory.made host world) := by
  simp only [resolve, Action.run_bind, Action.run_lift, accepted, WorkingDirectory.create_ok able,
    withDefaults_of_name named, mapError_ok, Action.run_pure]

theorem resolve_refused {config : Config} {fault : FileFault}
    (accepted : readNamed raw = .ok config)
    (refused : WorkingDirectory.fault? host world = some fault) :
    (resolve host raw).run world =
      (.error (.noDirectory fault (WorkingDirectory.numbered host world.directories).path.text),
        WorkingDirectory.unmade world) := by
  simp only [resolve, Action.run_bind, Action.run_lift, accepted,
    WorkingDirectory.create_error refused]

theorem resolve_given {given config : Config} {name : Text} {directory : WorkingDirectory}
    {after : World} (accepted : readNamed raw = .ok given) (named : given.chartName = some name)
    (resolved : (resolve host raw).run world = (.ok (config, directory), after)) :
    config = given.completed directory.path name ∧
      directory = WorkingDirectory.numbered host world.directories ∧
      after = WorkingDirectory.made host world ∧ WorkingDirectory.fault? host world = none := by
  cases able : WorkingDirectory.fault? host world with
  | some fault =>
    rw [resolve_refused accepted able] at resolved
    cases resolved
  | none =>
    rw [resolve_ok accepted named able] at resolved
    cases resolved
    exact ⟨rfl, rfl, rfl, rfl⟩

theorem resolve_cases {config : Config} {directory : WorkingDirectory} {after : World}
    (resolved : (resolve host raw).run world = (.ok (config, directory), after)) :
    config.Completes raw directory.path ∧
      directory = WorkingDirectory.numbered host world.directories ∧
      after = WorkingDirectory.made host world := by
  cases accepted : readNamed raw with
  | error failure =>
    rw [resolve_error accepted] at resolved
    cases resolved
  | ok given =>
    obtain ⟨name, named, _⟩ := readNamed_name accepted
    obtain ⟨completed, numbered, made, -⟩ := resolve_given accepted named resolved
    exact ⟨⟨given, name, accepted, named, completed⟩, numbered, made⟩

theorem ResolvesTo.completed {given config : Config} (resolves : given.ResolvesTo config) :
    ∃ root name, root.origin = .root ∧ given.chartName = some name ∧
      config = given.completed root name := by
  obtain ⟨host, raw, start, directory, after, read, resolved⟩ := resolves
  obtain ⟨name, named, -⟩ := readNamed_name read
  obtain ⟨completed, -⟩ := resolve_given read named resolved
  exact ⟨_, name, rfl, named, completed⟩

theorem Completes.chartDirectory {config : Config} {root : Path}
    (complete : config.Completes raw root) : ∃ place, config.chartDirectory = .ok place := by
  obtain ⟨given, name, _, named, rfl⟩ := complete
  simp only [Config.chartDirectory, completed, named, chartPath]
  exact ⟨_, rfl⟩

/-- Resolving is all or nothing. What cannot be read, or names no chart, is refused in the world as
it was. Everything else, whichever paths it sets, is completed, and one directory was made for it,
new and empty. Nothing behind that point can fail, since a configuration that names a chart can be
completed below any directory. -/
theorem resolve_atomic {host : Host} {world : World}
    (possible : WorkingDirectory.Possible host world) (raw : RawConfig) :
    ((∃ failure, readNamed raw = .error failure ∧
        (resolve host raw).run world = (.error failure, world)) ∨
      ∃ given config directory after, readNamed raw = .ok given ∧
        given.withDefaults directory.path = .ok config ∧
        (resolve host raw).run world = (.ok (config, directory), after) ∧
        directory.Made world after) ∧
    ∀ given root, readNamed raw = .ok given → ∃ config, given.withDefaults root = .ok config := by
  constructor
  · cases accepted : readNamed raw with
    | error failure => exact .inl ⟨failure, rfl, resolve_error accepted⟩
    | ok given =>
      obtain ⟨name, named, -⟩ := readNamed_name accepted
      exact .inr ⟨given, _, _, _, rfl, withDefaults_of_name named _,
        resolve_ok accepted named possible.able, WorkingDirectory.made_of_possible possible⟩
  · intro given root accepted
    obtain ⟨name, named, -⟩ := readNamed_name accepted
    exact ⟨_, withDefaults_of_name named root⟩

theorem resolve_atomic_of_paths :
    let host : Host := { current := [], environment := [], temporaryNames := fun _ => "x" }
    let root := Files.empty.add [] .directory Files.usualDirectory
    let around := root.add ["tmp"] .directory 0o1777
    let files := around.add ["tmp", "helm-inflator-w"] .directory WorkingDirectory.ownMode
    let world : World := ⟨files, 1, [], []⟩
    let raw : RawConfig := .document (.map none [(.text "chartName", .text "nginx"),
      (.text "chartHome", .text "/charts"), (.text "values", .text "values.yaml"),
      (.text "helmHome", .text "/helm")])
    WorkingDirectory.Possible host world ∧
    (∃ given, readNamed raw = .ok given ∧ given.chartHome = some "/charts" ∧
      given.values = some "values.yaml" ∧ given.helmHome = some "/helm") ∧
    ((∃ failure, readNamed raw = .error failure ∧
        (resolve host raw).run world = (.error failure, world)) ∨
      ∃ given config directory after, readNamed raw = .ok given ∧
        given.withDefaults directory.path = .ok config ∧
        (resolve host raw).run world = (.ok (config, directory), after) ∧
        directory.Made world after) ∧
    ∀ given root, readNamed raw = .ok given →
      ∃ config, given.withDefaults root = .ok config := by
  intro host root around files world raw
  have possible : WorkingDirectory.Possible host world := by
    have rooted : root.IsTree := Files.isTree_empty.add rfl (absurd rfl) _ _
    have inner : around.IsTree := rooted.add rfl (fun _ => rfl) _ _
    exact ⟨inner.add rfl (fun _ => rfl) _ _, rfl, rfl, rfl⟩
  exact ⟨possible, ⟨_, rfl, rfl, rfl, rfl⟩, resolve_atomic possible raw⟩

end Config

end ChartManifests
