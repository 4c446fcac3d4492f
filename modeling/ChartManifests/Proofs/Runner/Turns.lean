import ChartManifests.Proofs.Action
import ChartManifests.Runner
/-!
Turns of a runner. A command meets a runner behind other commands and with the files that those
left. `Runner.Carries` says that a world became another one by nothing but commands, carried out one
after the other; every property of files that the runner keeps in each turn then holds at the end.
-/

namespace ChartManifests

structure Turn where
  history : List Command
  command : Command
  files : Files

namespace Runner

variable (runner : Runner)

def answer (turn : Turn) : Answer := runner turn.history turn.command turn.files

def turns (history : List Command) (files : Files) : List Command → List Turn
  | [] => []
  | command :: rest =>
    ⟨history, command, files⟩ ::
      turns (history ++ [command]) (runner history command files).files rest

def leaves (history : List Command) (files : Files) : List Command → Files
  | [] => files
  | command :: rest => leaves (history ++ [command]) (runner history command files).files rest

theorem leaves_append (first second : List Command) : ∀ history files,
    runner.leaves history files (first ++ second) =
      runner.leaves (history ++ first) (runner.leaves history files first) second := by
  induction first with
  | nil => simp [leaves]
  | cons command rest ih =>
    intro history files
    simp only [List.cons_append, leaves]
    rw [ih, List.append_assoc, List.singleton_append]

theorem leaves_induction {holds : Files → Prop} {issued : List Command} : ∀ {history files},
    (∀ turn ∈ runner.turns history files issued,
      holds turn.files → holds (runner.answer turn).files) →
    holds files → holds (runner.leaves history files issued) := by
  induction issued with
  | nil => exact fun _ begun => begun
  | cons command rest ih =>
    intro history files kept begun
    have first := kept ⟨history, command, files⟩ List.mem_cons_self begun
    exact ih (fun turn member => kept turn (List.mem_cons_of_mem _ member)) first

structure Carries (issued : List Command) (before after : World) : Prop where
  commands : after.commands = before.commands ++ issued
  files : after.files = runner.leaves before.commands before.files issued
  directories : after.directories = before.directories

namespace Carries

theorem refl (world : World) : runner.Carries [] world world :=
  ⟨by simp, rfl, rfl⟩

variable {runner} {issued next : List Command} {before between after : World}

theorem trans (first : runner.Carries issued before between)
    (second : runner.Carries next between after) :
    runner.Carries (issued ++ next) before after := by
  constructor
  · rw [second.commands, first.commands, List.append_assoc]
  · rw [second.files, first.commands, first.files, leaves_append]
  · rw [second.directories, first.directories]

theorem record (carried : runner.Carries issued before after) (event : Event) :
    runner.Carries issued before (after.record event) :=
  ⟨carried.commands, carried.files, carried.directories⟩

theorem recordFirst (event : Event) (carried : runner.Carries issued (before.record event) after) :
    runner.Carries issued before after :=
  ⟨carried.commands, carried.files, carried.directories⟩

end Carries

theorem run_carries (command : Command) (world : World) :
    ∃ after, (runner.run command).run world =
        ((runner world.commands command world.files).result, after) ∧
      runner.Carries [command] world after :=
  ⟨_, rfl, rfl, rfl, rfl⟩

end Runner

theorem traced_carries {α : Type} (step : String) (chart : Option Text) {runner : Runner}
    {issued : List Command} {body : Action α} {result : Except Failure α} {world : World}
    (ran : ∃ after, body.run (stepBegun step chart world) = (result, after) ∧
      runner.Carries issued (stepBegun step chart world) after) :
    ∃ after, (traced step chart body).run world = (result, after) ∧
      runner.Carries issued world after := by
  obtain ⟨inner, ended, carried⟩ := ran
  obtain ⟨event, left⟩ := traced_world step chart body world
  refine ⟨((traced step chart body).run world).2, ?_, ?_⟩
  · have kept := traced_result step chart body world
    rw [ended] at kept
    exact Prod.ext kept rfl
  · rw [left, ended]
    exact (carried.record event).recordFirst _

end ChartManifests
