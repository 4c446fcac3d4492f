import ChartManifests.Generator
import ChartManifests.Proofs.Helm
import ChartManifests.Proofs.Resolve
/-!
The course of an inflation: the commands that are issued, and how it ends. There are five courses;
one of them is closed to a configuration that has been resolved. From this follows what it comes to
to configure a generator and to let it generate.
-/

namespace ChartManifests

open Helm

/-- The commands of an inflation that begins behind a history and with some files, and its result.
Each command meets the files that the one before it left. -/
inductive Course (host : Host) (runner : Runner) (config : Config) (history : List Command)
    (files : Files) : List Command → Except Failure Text.Bytes → Prop
  | unsupported {failure : Failure} :
      gate (runner history (versionCommand config) files) = .error failure →
      Course host runner config history files [versionCommand config] (.error failure)
  | homeless {number : String} {defect : PathDefect} :
      gate (runner history (versionCommand config) files) = .ok number →
      config.chartDirectory = .error defect →
      Course host runner config history files [versionCommand config] (.error (.path defect))
  | unfetched {number : String} {place : Text} {failure : Failure} :
      gate (runner history (versionCommand config) files) = .ok number →
      config.chartDirectory = .ok place →
      host.hasDirectory (runner history (versionCommand config) files).files place = false →
      (runner (history ++ [versionCommand config]) (pullCommand config)
        (runner history (versionCommand config) files).files).result = .error failure →
      Course host runner config history files [versionCommand config, pullCommand config]
        (.error failure)
  | fetched {number : String} {place : Text} {output : Text.Bytes} {template : Command} :
      gate (runner history (versionCommand config) files) = .ok number →
      config.chartDirectory = .ok place →
      host.hasDirectory (runner history (versionCommand config) files).files place = false →
      (runner (history ++ [versionCommand config]) (pullCommand config)
        (runner history (versionCommand config) files).files).result = .ok output →
      templateCommand config = .ok template →
      Course host runner config history files
        [versionCommand config, pullCommand config, template]
        (runner (history ++ [versionCommand config] ++ [pullCommand config]) template
          (runner.leaves history files [versionCommand config, pullCommand config])).result
  | present {number : String} {place : Text} {template : Command} :
      gate (runner history (versionCommand config) files) = .ok number →
      config.chartDirectory = .ok place →
      host.hasDirectory (runner history (versionCommand config) files).files place = true →
      templateCommand config = .ok template →
      Course host runner config history files [versionCommand config, template]
        (runner (history ++ [versionCommand config]) template
          (runner history (versionCommand config) files).files).result

def Generator.acquire (host : Host) (runner : Runner) (config : Config) : Action Text.Bytes := do
  if ← ensureChart host runner config then
    Action.record (.chartPulled (formatted config.chartName))
  template runner config

variable {host : Host} {runner : Runner} {config : Config}

theorem templateCommand_of_directory {place : Text} (placed : config.chartDirectory = .ok place) :
    ∃ template, templateCommand config = .ok template := by
  obtain ⟨args, formed⟩ := templateArgs_ok placed
  exact ⟨_, templateCommand_ok formed⟩

theorem acquire_course (before : World) {number : String} {world : World}
    (accepted : gate (runner before.commands (versionCommand config) before.files) = .ok number)
    (checked : runner.Carries [versionCommand config] before world) :
    ∃ issued result after, (Generator.acquire host runner config).run world = (result, after) ∧
      Course host runner config before.commands before.files issued result ∧
      runner.Carries issued before after := by
  have files : world.files =
      (runner before.commands (versionCommand config) before.files).files := checked.files
  cases placed : config.chartDirectory with
  | error defect =>
    refine ⟨_, _, world, ?_, .homeless accepted placed, checked⟩
    rw [Generator.acquire, Action.run_bind, ensureChart_noDirectory runner world placed]
  | ok place =>
    obtain ⟨command, formed⟩ := templateCommand_of_directory placed
    cases there : host.hasDirectory world.files place with
    | true =>
      have carried := checked.trans ((Runner.Carries.refl runner world).record
        (.chartFound place))
      obtain ⟨after, rendered, carriedOn⟩ := template_run runner
        (world.record (.chartFound place)) formed
      have all := carried.trans carriedOn
      simp only [World.record, checked.commands, files] at rendered there
      refine ⟨_, _, after, ?_, .present accepted placed there formed, all⟩
      rw [Generator.acquire, Action.run_bind_ok (ensureChart_present runner placed (files ▸ there))]
      simpa only [World.record, Bool.false_eq_true, if_false, checked.commands, files]
        using rendered
    | false =>
      obtain ⟨pulled, asked, carried⟩ := ensureChart_absent runner placed there
      rw [Generator.acquire, Action.run_bind, asked]
      simp only [checked.commands, files] at there ⊢
      cases answered : (runner (before.commands ++ [versionCommand config]) (pullCommand config)
          (runner before.commands (versionCommand config) before.files).files).result with
      | error failure =>
        exact ⟨_, _, pulled, rfl, .unfetched accepted placed there answered,
          checked.trans carried⟩
      | ok output =>
        have soFar := (checked.trans carried).record
          (.chartPulled (formatted config.chartName))
        obtain ⟨after, rendered, carriedOn⟩ := template_run runner
          (pulled.record (.chartPulled (formatted config.chartName))) formed
        rw [soFar.commands, soFar.files] at rendered
        refine ⟨_, _, after, ?_, .fetched accepted placed there answered formed,
          soFar.trans carriedOn⟩
        simpa [Except.map, Action.run_bind] using rendered

theorem inflate_course (host : Host) (runner : Runner) (config : Config) (world : World) :
    ∃ issued result after, (Generator.inflate host runner config).run world = (result, after) ∧
      Course host runner config world.commands world.files issued result ∧
      runner.Carries issued world after := by
  let begun := stepBegun "generate" config.chartName world
  obtain ⟨checked, ended, carried⟩ := checkVersion_run runner config begun
  have inner : ∃ issued result after,
      (discard (checkVersion runner config) >>= fun _ =>
        Generator.acquire host runner config).run begun = (result, after) ∧
      Course host runner config world.commands world.files issued result ∧
      runner.Carries issued begun after := by
    rw [Action.run_bind, Action.run_discard, ended]
    cases decided : gate (runner world.commands (versionCommand config) world.files) with
    | error failure =>
      refine ⟨_, .error failure, checked, ?_, .unsupported decided, carried⟩
      simp only [begun, stepBegun, World.record, decided, Except.map]
    | ok number =>
      obtain ⟨issued, result, last, ran, course, all⟩ :=
        acquire_course begun decided carried
      refine ⟨issued, result, last, ?_, course, all⟩
      simpa only [begun, stepBegun, World.record, decided, Except.map] using ran
  obtain ⟨issued, result, last, ran, course, all⟩ := inner
  obtain ⟨after, traced, wholly⟩ := traced_carries _ _ ⟨last, ran, all⟩
  exact ⟨issued, result, after, traced, course, wholly⟩

theorem discardDirectory_directories (generator : Generator) (world : World) :
    (generator.discardDirectory world).directories = world.directories := by
  unfold Generator.discardDirectory
  split <;> rfl

theorem discardDirectory_commands (generator : Generator) (world : World) :
    (generator.discardDirectory world).commands = world.commands := by
  unfold Generator.discardDirectory
  split <;> rfl

/-- A generator that is configured anew is ready with a directory that was not there. Otherwise it is
unconfigured: for what was handed over, or since no directory was made. -/
theorem configure_cases (host : Host) (raw : RawConfig) (generator : Generator) (world : World) :
    (∃ failure, Config.readNamed raw = .error failure ∧
      generator.configure host raw world =
        ⟨.error failure, .unconfigured, generator.discardDirectory world⟩) ∨
    (∃ given fault, Config.readNamed raw = .ok given ∧
      WorkingDirectory.fault? host (generator.discardDirectory world) = some fault ∧
      generator.configure host raw world =
        ⟨.error (.noDirectory fault (WorkingDirectory.numbered host world.directories).path.text),
          .unconfigured, WorkingDirectory.unmade (generator.discardDirectory world)⟩) ∨
    (∃ config, config.Completes raw (WorkingDirectory.numbered host world.directories).path ∧
      WorkingDirectory.fault? host (generator.discardDirectory world) = none ∧
      generator.configure host raw world =
        ⟨.ok (), .ready config (WorkingDirectory.numbered host world.directories),
          WorkingDirectory.made host (generator.discardDirectory world)⟩) := by
  cases accepted : Config.readNamed raw with
  | error failure =>
    exact .inl ⟨failure, rfl, by rw [Generator.configure, Config.resolve_error accepted]⟩
  | ok given =>
    obtain ⟨name, named, _⟩ := Config.readNamed_name accepted
    have counted := discardDirectory_directories generator world
    cases able : WorkingDirectory.fault? host (generator.discardDirectory world) with
    | some fault =>
      refine .inr (.inl ⟨given, fault, rfl, rfl, ?_⟩)
      rw [Generator.configure, Config.resolve_refused accepted able, counted]
    | none =>
      refine .inr (.inr ⟨_, ⟨given, name, accepted, named, rfl⟩, rfl, ?_⟩)
      rw [Generator.configure, Config.resolve_ok accepted named able, counted]

theorem generate_ready (host : Host) (runner : Runner) (config : Config)
    (directory : WorkingDirectory) (world : World) :
    ∃ issued result after, (Generator.ready config directory).generate host runner world =
        ⟨result, .spent config, directory.remove after⟩ ∧
      Course host runner config world.commands world.files issued result ∧
      runner.Carries issued world after := by
  obtain ⟨issued, result, after, ran, course, carried⟩ := inflate_course host runner config world
  refine ⟨issued, result, after, ?_, course, carried⟩
  simp only [Generator.generate, Generator.config, WorkingDirectory.within, Action.run_andFinally,
    ran]

end ChartManifests
