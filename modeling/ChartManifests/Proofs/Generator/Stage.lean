import ChartManifests.Proofs.Generator.Course
/-!
An inflation in stages. Each stage issues one command, and between two stages others may go about
their business. Stage after stage without a break, it is the inflation as a whole.
-/

namespace ChartManifests

open Helm

inductive Stage
  | checking
  | fetching
  | rendering
deriving DecidableEq, Repr

namespace Stage

/-- Performs a stage. It leads to the next one or, if it is the last, to the output. -/
def perform (host : Host) (runner : Runner) (config : Config) : Stage → Action (Stage ⊕ Text.Bytes)
  | checking => do
    discard (checkVersion runner config)
    pure (.inl fetching)
  | fetching => do
    if ← ensureChart host runner config then
      Action.record (.chartPulled (formatted config.chartName))
    pure (.inl rendering)
  | rendering => do
    let output ← template runner config
    pure (.inr output)

def command (config : Config) : Stage → Except PathDefect Command
  | checking => .ok (versionCommand config)
  | fetching => .ok (pullCommand config)
  | rendering => templateCommand config

def conclude (result : Except Failure Text.Bytes) : Stage → Except Failure (Stage ⊕ Text.Bytes)
  | checking =>
    (result.bind fun output => Version.supported (Text.Utf8.decodeLossy output)).map
      fun _ => .inl fetching
  | fetching => result.map fun _ => .inl rendering
  | rendering => result.map .inr

def remaining (host : Host) (runner : Runner) (config : Config) : Stage → Action Text.Bytes
  | checking => do
    discard (checkVersion runner config)
    Generator.acquire host runner config
  | fetching => Generator.acquire host runner config
  | rendering => template runner config

variable {host : Host} {runner : Runner} {config : Config}

theorem inflate_eq : Generator.inflate host runner config =
    traced "generate" config.chartName (remaining host runner config checking) := rfl

theorem remaining_run (stage : Stage) (world : World) :
    (stage.remaining host runner config).run world =
      match (stage.perform host runner config).run world with
      | (.ok (.inl next), after) => (next.remaining host runner config).run after
      | (.ok (.inr output), after) => (.ok output, after)
      | (.error failure, after) => (.error failure, after) := by
  cases stage with
  | checking =>
    simp only [remaining, perform, Action.run_bind]
    cases (discard (checkVersion runner config)).run world with
    | mk result after => cases result <;> rfl
  | fetching =>
    simp only [remaining, perform, Generator.acquire, Action.run_bind]
    cases (ensureChart host runner config).run world with
    | mk result after =>
      cases result with
      | error failure => rfl
      | ok pulled => cases pulled <;> rfl
  | rendering =>
    simp only [remaining, perform, Action.run_bind]
    cases (template runner config).run world with
    | mk result after => cases result <;> rfl

theorem perform_run (runner : Runner) {stage : Stage} {place : Text} {command : Command}
    {world : World} (placed : config.chartDirectory = .ok place)
    (absent : stage = fetching → host.hasDirectory world.files place = false)
    (formed : stage.command config = .ok command) :
    ∃ after, (stage.perform host runner config).run world =
        (stage.conclude (runner world.commands command world.files).result, after) ∧
      runner.Carries [command] world after := by
  cases stage with
  | checking =>
    cases formed
    obtain ⟨after, checked, carried⟩ := checkVersion_run runner config world
    refine ⟨after, ?_, carried⟩
    simp only [perform, Action.run_bind, Action.run_discard, checked, conclude]
    change _ = ((gate _).map _, after)
    cases gate (runner world.commands (versionCommand config) world.files) <;> rfl
  | fetching =>
    cases formed
    obtain ⟨after, ensured, carried⟩ := ensureChart_absent runner placed (absent rfl)
    simp only [perform, Action.run_bind, ensured, conclude]
    cases (runner world.commands (pullCommand config) world.files).result with
    | error failure => exact ⟨after, rfl, carried⟩
    | ok output => exact ⟨_, rfl, carried.record (.chartPulled (formatted config.chartName))⟩
  | rendering =>
    obtain ⟨after, rendered, carried⟩ := template_run runner world formed
    refine ⟨after, ?_, carried⟩
    simp only [perform, Action.run_bind, rendered, conclude]
    cases (runner world.commands command world.files).result <;> rfl

end Stage

end ChartManifests
