import ChartManifests.Proofs.Config.Containment
import ChartManifests.Proofs.Generator.Pipeline
import ChartManifests.Proofs.Generator.Stage
import ChartManifests.Proofs.Host.Unlinked
import ChartManifests.Runner.Canned
/-!
What a working directory shelters. As long as nothing was fetched, no chart is found below the home
of charts in it, by whatever way that leads there; and what is fetched comes to lie there.
-/

namespace ChartManifests

open Text

theorem Files.spelled_of_isOwnName {name : String} (own : isOwnName name = true) :
    spelled (ofString name) = name := by
  simp only [isOwnName, Bool.and_eq_true] at own
  exact spelled_ofString own.1.1.2

/-- From a world on, a host makes every directory that it is asked for. They are siblings with plain
names, pairwise different, and nothing is there yet. The way to them leads through directories;
otherwise none could be made. -/
structure Host.MakesFresh (host : Host) (start : World) : Prop where
  plain : host.NamesPlainly
  willing : ∀ number, start.directories ≤ number → host.refusals number = none
  distinct : ∀ first second, start.directories ≤ first → start.directories ≤ second →
    host.temporaryNames first = host.temporaryNames second → first = second
  unmade : ∀ number, start.directories ≤ number → ∀ place,
    (WorkingDirectory.numbered host number).location <+: place →
      start.files.standing? place = none
  around : ∀ place, place <+: host.temporary → start.files.standing? place = some .directory

namespace WorkingDirectory

def chartHome (directory : WorkingDirectory) : Path := directory.path.child chartHomeName

def chartLocation (directory : WorkingDirectory) : Location := directory.location ++ ["chart"]

structure Vacant (directory : WorkingDirectory) (files : Files) : Prop where
  standing : ∀ place, place <+: directory.location → files.standing? place = some .directory
  empty : ∀ place, directory.chartLocation <+: place → files.standing? place = none

variable {host : Host}

theorem chartHome_eq (directory : WorkingDirectory) :
    directory.chartHome = ⟨.root, directory.chartLocation.map ofString⟩ := by
  rw [chartHome, Path.child_relative rfl, chartLocation, List.map_append]
  rfl

theorem low_of_isAlphanum {character : Char} (letter : character.isAlphanum = true) :
    character.toNat < 128 := by
  have upper : 'Z'.val.toNat = 90 := rfl
  have lower : 'z'.val.toNat = 122 := rfl
  have digit : '9'.val.toNat = 57 := rfl
  have same : character.toNat = character.val.toNat := rfl
  change (decide ('A'.val ≤ character.val ∧ character.val ≤ 'Z'.val) ||
    decide ('a'.val ≤ character.val) && decide (character.val ≤ 'z'.val) ||
    decide ('0'.val ≤ character.val) && decide (character.val ≤ '9'.val)) = true at letter
  simp only [Bool.or_eq_true, Bool.and_eq_true, decide_eq_true_eq, UInt32.le_iff_toNat_le] at letter
  omega

theorem spelled_name (plain : host.NamesPlainly) (number : Nat) :
    spelled (ofString (name host number)) = name host number := by
  apply spelled_ofString
  rw [isPlain, List.all_eq_true]
  intro character present
  apply decide_eq_true
  rcases name_plain plain number character present with letter | rfl | rfl
  · exact low_of_isAlphanum letter
  · decide
  · decide

theorem not_up (host : Host) (number : Nat) : Path.up ∉ (numbered host number).chartHome.names := by
  rw [chartHome_eq, chartLocation, List.map_append, List.mem_append, not_or]
  exact ⟨up_not_mem_path host number, by decide⟩

theorem spelled_chartLocation (plain : host.NamesPlainly) (number : Nat) :
    ∀ name ∈ (numbered host number).chartLocation, spelled (ofString name) = name := by
  simp only [chartLocation, numbered, List.forall_mem_append, List.forall_mem_singleton]
  refine ⟨⟨?_, spelled_name plain number⟩, spelled_ofString rfl⟩
  exact fun name among => Files.spelled_of_isOwnName (host.isOwnName_temporary name among)

theorem map_spelled (plain : host.NamesPlainly) (number : Nat) {place : Location}
    (within : place <+: (numbered host number).chartLocation) :
    (place.map ofString).map spelled = place := by
  rw [List.map_map]
  refine (List.map_congr_left fun name among => ?_).trans (List.map_id place)
  exact spelled_chartLocation plain number name (within.subset among)

theorem location_chartHome (plain : host.NamesPlainly) (number : Nat) :
    (numbered host number).chartHome.location = (numbered host number).chartLocation := by
  rw [Path.location, Path.resolved_of_no_up (not_up host number), chartHome_eq]
  exact map_spelled plain number List.prefix_rfl

theorem Vacant.unlinked {files : Files} {number : Nat} (plain : host.NamesPlainly)
    (vacant : (numbered host number).Vacant files) :
    files.Unlinked (numbered host number).chartHome.names := by
  intro front begins named target
  have downward : Path.up ∉ front := fun up => not_up host number (begins.subset up)
  rw [Path.foldl_step_of_no_up downward, List.nil_append]
  -- The way goes through directories, the last of them the directory itself, to the home of charts.
  rw [chartHome_eq] at begins
  obtain ⟨place, within, rfl⟩ := List.prefix_map_iff.mp begins
  rw [map_spelled plain number within]
  rcases List.prefix_concat_iff.mp within with rfl | outer
  · have nothing := vacant.empty _ List.prefix_rfl
    rw [chartLocation] at nothing
    simp [nothing]
  · simp [vacant.standing place outer]

end WorkingDirectory

namespace Config

/-- The chart of a configuration lies below its home by the names of its path, whatever ways up they
contain. If the path does not begin with that of the home, then names do not tell where it leads, as
a way up from behind a link leads to where the target lies: with `/in` a link to `/srv/data`, the
path `/in/../tmp/own/chart` leads below `/srv`. So no link may stand on such a path; on one that
begins with that of the home, links are of no concern. -/
def Sheltered (config : Config) (files : Files) : Prop :=
  ∀ home place, config.chartHome = some home → config.chartDirectory = .ok place →
    (Path.ofText place).Within (Path.ofText home) ∧
      ((Path.ofText home).names <+: (Path.ofText place).names ∨
        files.Unlinked (Path.ofText place).names)

instance (config : Config) (files : Files) : Decidable (config.Sheltered files) :=
  match owned : config.chartHome, placed : config.chartDirectory with
  | some home, .ok place =>
    decidable_of_iff ((Path.ofText place).Within (Path.ofText home) ∧
        ((Path.ofText home).names <+: (Path.ofText place).names ∨
          files.Unlinked (Path.ofText place).names)) (by simp [Sheltered, owned, placed])
  | none, _ => .isTrue (by simp [Sheltered, owned])
  | some _, .error _ => .isTrue (by simp [Sheltered, placed])

theorem sheltered_of_relative {config : Config} {home name : Text} (files : Files)
    (own : config.chartHome = some home) (named : config.chartName = some name)
    (relative : (Path.ofText name).origin = .relative)
    (within : ((Path.ofText home).child name).Within (Path.ofText home)) :
    config.Sheltered files := by
  intro other place same placed
  cases own.symm.trans same
  have formed : config.chartDirectory = .ok ((Path.ofText home).child name).text := by
    simp only [chartDirectory, own, named]
    rfl
  cases formed.symm.trans placed
  rw [Path.ofText_text ((Path.proper_ofText home).child name)]
  refine ⟨within, .inl ?_⟩
  rw [Path.child_relative relative]
  exact List.prefix_append _ _

/-- The home of charts of a configuration is the one in a working directory. -/
def Housed (config : Config) (directory : WorkingDirectory) : Prop :=
  config.chartHome = some directory.chartHome.text ∧
    ∃ name, config.chartDirectory = .ok (directory.chartHome.child name).text

variable {host : Host} {config : Config} {number : Nat} {files : Files}

theorem housed_of_completes {raw : RawConfig} (plain : host.NamesPlainly)
    (completes : config.Completes raw (WorkingDirectory.numbered host number).path)
    (unset : ∀ given, readNamed raw = .ok given → nonEmpty? given.chartHome = none) :
    config.Housed (WorkingDirectory.numbered host number) := by
  obtain ⟨given, name, read, named, rfl⟩ := completes
  obtain ⟨home, placed, -⟩ := completed_paths (WorkingDirectory.proper_path plain number) named
    (unset given read)
  exact ⟨home, name, placed⟩

theorem Sheltered.absent (plain : host.NamesPlainly)
    (housed : config.Housed (WorkingDirectory.numbered host number))
    (sheltered : config.Sheltered files)
    (vacant : (WorkingDirectory.numbered host number).Vacant files) :
    ∃ place, config.chartDirectory = .ok place ∧ host.hasDirectory files place = false := by
  obtain ⟨home, name, placed⟩ := housed
  have properHome := (WorkingDirectory.proper_path plain number).child chartHomeName
  have proper := properHome.child name
  have located := WorkingDirectory.location_chartHome plain number
  have unlinked := vacant.unlinked plain
  have resolved := Path.resolved_of_no_up (WorkingDirectory.not_up host number)
  obtain ⟨⟨rooted, below⟩, way⟩ := sheltered _ _ home placed
  refine ⟨_, placed, ?_⟩
  change (WorkingDirectory.numbered host number).chartHome.Proper at properHome
  change ((WorkingDirectory.numbered host number).chartHome.child name).Proper at proper
  rw [Path.ofText_text properHome, Path.ofText_text proper] at rooted below way
  generalize (WorkingDirectory.numbered host number).chartHome.child name = chart at *
  have named : chart.names ≠ [] := by
    intro nowhere
    rw [resolved, WorkingDirectory.chartHome_eq, WorkingDirectory.chartLocation] at below
    simp [Path.resolved, nowhere] at below
  rw [← Bool.not_eq_true, Host.hasDirectory_iff]
  rintro ⟨text, goal, formed, -, found⟩
  obtain ⟨led, standing⟩ := Files.find_iff.mp found
  have leads : host.LeadsTo files chart.text goal := ⟨text, formed, led⟩
  -- The way ends where the home of charts would be, or it leads to where its names say.
  have outside : (WorkingDirectory.numbered host number).chartLocation <+: goal := by
    rcases way with begins | direct
    · have nothing := vacant.empty _ List.prefix_rfl
      rw [← located] at nothing
      have reached := leads.eq_of_none proper rooted begins named unlinked nothing
      exact (reached.trans located) ▸ List.prefix_rfl
    · rw [leads.eq_location proper rooted named direct, ← located]
      exact below.map spelled
  rw [vacant.empty goal outside] at standing
  cases standing

theorem Housed.fetches {home : Text} {goal : Location} (plain : host.NamesPlainly)
    (housed : config.Housed (WorkingDirectory.numbered host number))
    (vacant : (WorkingDirectory.numbered host number).Vacant files)
    (own : config.chartHome = some home) (leads : host.LeadsTo files home goal) :
    goal = (WorkingDirectory.numbered host number).chartLocation := by
  have proper := (WorkingDirectory.proper_path plain number).child chartHomeName
  rw [housed.1] at own
  cases own
  rw [← WorkingDirectory.location_chartHome plain number]
  refine leads.eq_location proper rfl ?_ (vacant.unlinked plain)
  rw [WorkingDirectory.chartHome_eq, WorkingDirectory.chartLocation]
  simp

end Config

/-- The directory that a command unpacks a chart into, if it fetches one. -/
def Command.untarDirectory? (command : Command) : Option Text :=
  match command.words with
  | _ :: some verb :: args =>
    if verb = ofString "pull" then Script.wordAfter "--untardir" args else none
  | _ => none

/-- A runner whose results depend on the command only, and which writes nothing but what a command
fetches, below the directory that the command names for it. -/
structure Runner.Obedient (host : Host) (runner : Runner) : Prop where
  answers : ∀ command history history' files files',
    (runner history command files).result = (runner history' command files').result
  writes : ∀ history command files place,
    (runner history command files).files.standing? place ≠ files.standing? place →
      ∃ text outer, command.untarDirectory? = some text ∧ host.LeadsTo files text outer ∧
        outer <+: place

namespace Stage

variable {host : Host} {runner : Runner} {config : Config} {command : Command} {stage : Stage}

theorem untarDirectory?_words (binary : Option Text) (verb : Text) (args : List (Option Text))
    (purpose : Purpose) (environment : List (String × Option Text)) :
    (Command.mk (binary :: some verb :: args) purpose environment).untarDirectory? =
      if verb = ofString "pull" then Script.wordAfter "--untardir" args else none := rfl

theorem templateCommand_words (formed : Helm.templateCommand config = .ok command) :
    ∃ args, command = Helm.command config .render (some (ofString "template") :: args) := by
  simp only [Helm.templateCommand, Helm.templateArgs] at formed
  cases placed : config.chartDirectory with
  | error defect => simp [placed, bind, Except.bind, Except.map] at formed
  | ok place =>
    rw [placed] at formed
    cases formed
    exact ⟨_, rfl⟩

theorem untarDirectory?_command (formed : stage.command config = .ok command) :
    command.untarDirectory? = if stage = .fetching then config.chartHome else none := by
  cases stage with
  | checking =>
    cases formed
    have other : ofString "version" ≠ ofString "pull" := by decide
    exact (untarDirectory?_words _ _ _ _ _).trans (if_neg other)
  | fetching =>
    cases formed
    have other : some (ofString "--untar") ≠ some (ofString "--untardir") := by decide
    refine (untarDirectory?_words _ _ _ _ _).trans ((if_pos rfl).trans ?_)
    change Script.wordAfter _ (some (ofString "--untar") :: some (ofString "--untardir") ::
      config.chartHome :: _) = _
    simp only [Script.wordAfter, if_neg other, if_true]
  | rendering =>
    obtain ⟨args, rfl⟩ := templateCommand_words formed
    have other : ofString "template" ≠ ofString "pull" := by decide
    exact (untarDirectory?_words _ _ _ _ _).trans (if_neg other)

theorem exists_command (stage : Stage) {place : Text} (placed : config.chartDirectory = .ok place) :
    ∃ command, stage.command config = .ok command := by
  cases stage with
  | checking => exact ⟨_, rfl⟩
  | fetching => exact ⟨_, rfl⟩
  | rendering => exact templateCommand_of_directory placed

/-- What a stage comes to with an obedient runner. Only what is fetched changes the files, and it
comes to lie in the home of charts. -/
theorem perform_obedient {number : Nat} {world : World} (plain : host.NamesPlainly)
    (obedient : runner.Obedient host)
    (housed : config.Housed (WorkingDirectory.numbered host number))
    (sheltered : stage = fetching → config.Sheltered world.files)
    (vacant : stage ≠ rendering → (WorkingDirectory.numbered host number).Vacant world.files) :
    ∃ command after, stage.command config = .ok command ∧
      (stage.perform host runner config).run world =
        (stage.conclude (runner world.commands command world.files).result, after) ∧
      after.commands = world.commands ++ [command] ∧ after.directories = world.directories ∧
      (∀ place, after.files.standing? place ≠ world.files.standing? place → stage = fetching ∧
        (WorkingDirectory.numbered host number).chartLocation <+: place) := by
  obtain ⟨name, placed⟩ := housed.2
  obtain ⟨command, formed⟩ := exists_command stage placed
  have absent : stage = fetching → host.hasDirectory world.files
      ((WorkingDirectory.numbered host number).chartHome.child name).text = false := by
    intro fetches
    obtain ⟨place, found, absent⟩ := (sheltered fetches).absent plain housed
      (vacant (by rw [fetches]; decide))
    cases placed.symm.trans found
    exact absent
  obtain ⟨after, performed, carried⟩ := perform_run runner placed absent formed
  refine ⟨command, after, formed, performed, carried.commands, carried.directories, ?_⟩
  intro place changed
  rw [carried.files] at changed
  obtain ⟨home, outer, named, leads, inside⟩ := obedient.writes _ _ _ _ changed
  rw [untarDirectory?_command formed] at named
  by_cases fetches : stage = fetching
  · rw [if_pos fetches] at named
    have lies := housed.fetches plain (vacant (by rw [fetches]; decide)) named leads
    exact ⟨fetches, lies ▸ inside⟩
  · rw [if_neg fetches] at named
    cases named

end Stage

end ChartManifests
