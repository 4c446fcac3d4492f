import ChartManifests.Helm
import ChartManifests.Proofs.Result
import ChartManifests.Proofs.Runner.Turns
/-!
Helm's part, step by step: which command a step issues and what the answer comes to. A step that
finds no directory for the chart ends before it issues anything.
-/

namespace ChartManifests

namespace Config

/-- The reference that a chart is fetched by: its name, alone if the address of a repository is
given, and below the name of a repository otherwise. -/
inductive Refers (config : Config) : Text → Prop
  | alone {chart address : Text} : nonEmpty? config.chartRepoUrl = some address →
      config.chartName = some chart → Refers config chart
  | below {chart repository : Text} : nonEmpty? config.chartRepoUrl = none →
      config.chartName = some chart → config.chartRepoName = some repository →
      Refers config (repository ++ "/" ++ chart)

theorem Refers.reference {config : Config} {reference : Text} (refers : config.Refers reference) :
    Helm.reference config = some reference := by
  cases refers with
  | alone address named => simp only [Helm.reference, address, named]
  | below none named repository =>
    simp only [Helm.reference, none, named, repository, formatted, Option.getD_some]

end Config

namespace Helm

variable {host : Host} {config : Config}

def gate (answer : Answer) : Except Failure String :=
  answer.result.bind fun output => Version.supported (Text.Utf8.decodeLossy output)

theorem checkVersion_run (runner : Runner) (config : Config) (world : World) :
    ∃ after, (checkVersion runner config).run world =
        (gate (runner world.commands (versionCommand config) world.files), after) ∧
      runner.Carries [versionCommand config] world after := by
  obtain ⟨asked, ended, carried⟩ := traced_carries "helm version" config.chartName
    (runner.run_carries (versionCommand config) (stepBegun _ _ world))
  simp only [checkVersion, Action.run_bind, ended, stepBegun, World.record]
  cases answered : (runner world.commands (versionCommand config) world.files).result with
  | error failure => exact ⟨asked, by simp [gate, answered, Except.bind], carried⟩
  | ok output =>
    simp only [Action.run_lift]
    cases decided : Version.supported (Text.Utf8.decodeLossy output) with
    | error failure => exact ⟨asked, by simp [gate, answered, Except.bind, decided], carried⟩
    | ok version =>
      exact ⟨asked.record (.versionFound version),
        by simp [gate, answered, Except.bind, decided], carried.record _⟩

theorem ensureChart_noDirectory (runner : Runner) (world : World) {defect : PathDefect}
    (nowhere : config.chartDirectory = .error defect) :
    (ensureChart host runner config).run world = (.error (.path defect), world) := by
  simp only [ensureChart, hasLocalChart, Action.run_bind, Action.run_lift, nowhere,
    mapError_error]

theorem ensureChart_present (runner : Runner) {world : World} {directory : Text}
    (placed : config.chartDirectory = .ok directory)
    (there : host.hasDirectory world.files directory = true) :
    (ensureChart host runner config).run world =
      (.ok false, world.record (.chartFound directory)) := by
  simp only [ensureChart, hasLocalChart, Action.run_bind, Action.run_lift, Action.run_of, placed,
    mapError_ok, there, if_true, Action.run_record, Action.run_pure]

theorem pull_run (runner : Runner) (config : Config) (world : World) :
    ∃ after, (pull runner config).run world =
        ((runner world.commands (pullCommand config) world.files).result.map fun _ => (), after) ∧
      runner.Carries [pullCommand config] world after := by
  obtain ⟨after, ended, carried⟩ := traced_carries "helm pull" config.chartName
    (runner.run_carries (pullCommand config) (stepBegun _ _ world))
  refine ⟨after, ?_, carried⟩
  simp only [pull, Action.run_discard, ended, stepBegun, World.record]

theorem ensureChart_absent (runner : Runner) {world : World} {directory : Text}
    (placed : config.chartDirectory = .ok directory)
    (absent : host.hasDirectory world.files directory = false) :
    ∃ after, (ensureChart host runner config).run world =
        ((runner world.commands (pullCommand config) world.files).result.map fun _ => true,
          after) ∧
      runner.Carries [pullCommand config] world after := by
  obtain ⟨after, pulled, carried⟩ := pull_run runner config world
  refine ⟨after, ?_, carried⟩
  simp only [ensureChart, hasLocalChart, Action.run_bind, Action.run_lift, Action.run_of, placed,
    mapError_ok, absent, Bool.false_eq_true, if_false, pulled]
  cases (runner world.commands (pullCommand config) world.files).result <;> rfl

theorem template_run (runner : Runner) (world : World) {command : Command}
    (formed : templateCommand config = .ok command) :
    ∃ after, (template runner config).run world =
        ((runner world.commands command world.files).result, after) ∧
      runner.Carries [command] world after := by
  apply traced_carries
  simp only [formed, mapError_ok, Action.run_bind, Action.run_lift]
  exact runner.run_carries command (stepBegun _ _ world)

theorem templateArgs_ok {directory : Text} (placed : config.chartDirectory = .ok directory) :
    ∃ args, templateArgs config = .ok args := by
  simp only [templateArgs, placed]
  exact ⟨_, rfl⟩

theorem templateCommand_ok {args : List Text} (formed : templateArgs config = .ok args) :
    templateCommand config = .ok (command config .render (args.map some)) := by
  simp only [templateCommand, formed, Except.map]

end Helm

end ChartManifests
