import ChartManifests.Proofs.Generator.Lifecycle
import ChartManifests.Proofs.Generator.Stage
import Mathlib.Logic.Function.Basic
/-!
Generators that share a host. Each has a list of operations to perform, and a schedule says whose
turn it is. A turn performs an operation or, where that lets a generator generate, begins it or
performs a stage of it, so that others can have their turns in between. Turns in a row, without
others in between, come to the operation as a whole.
-/

namespace ChartManifests

/-- An inflation that has begun, and what it is for: the output itself or the objects in it. -/
structure Run where
  config : Config
  directory : WorkingDirectory
  stage : Stage
  forObjects : Bool

namespace Run

def label (run : Run) : Text := stepLabel "generate" run.config.chartName

def outcome (run : Run) (result : Except Failure Text.Bytes) : Outcome :=
  if run.forObjects then .listed (result.bind (Generator.readObjects run.config.chartName))
  else .generated result

/-- The world in which a run has ended: its directory is removed. -/
def ended (run : Run) (result : Except Failure Text.Bytes) (world : World) : World :=
  run.directory.remove (world.record (match result with
    | .ok _ => .stepDone run.label
    | .error _ => .stepFailed run.label))

end Run

/-- What a member of a company is at. The generator of a run that has begun is spent. -/
inductive Engagement
  | idle (generator : Generator)
  | running (run : Run)

/-- A member of a company: what it is at, which operations it is to perform yet, and which working
directories it was given, in order. -/
structure Worker where
  engagement : Engagement
  operations : List Operation
  given : List WorkingDirectory

def Operation.begins? : Operation → Generator → Option Run
  | .generate, .ready complete directory => some ⟨complete, directory, .checking, false⟩
  | .objects, .ready complete directory => some ⟨complete, directory, .checking, true⟩
  | _, _ => none

def Operation.drawn : Operation → Generator → List WorkingDirectory
  | .configure _, generator => generator.directory?.toList
  | _, _ => []

abbrev Turned := Option Outcome × Worker × World

namespace Worker

def finish (worker : Worker) (run : Run) (result : Except Failure Text.Bytes) (world : World) :
    Turned :=
  (some (run.outcome result), { worker with engagement := .idle (.spent run.config) },
    run.ended result world)

def proceed (host : Host) (runner : Runner) (worker : Worker) (run : Run) (world : World) :
    Turned :=
  match (run.stage.perform host runner run.config).run world with
  | (.ok (.inl stage), after) =>
    (none, { worker with engagement := .running { run with stage } }, after)
  | (.ok (.inr output), after) => worker.finish run (.ok output) after
  | (.error failure, after) => worker.finish run (.error failure) after

def act (host : Host) (runner : Runner) (worker : Worker) (world : World) : Turned :=
  match worker.engagement, worker.operations with
  | .running run, _ => worker.proceed host runner run world
  | .idle _, [] => (none, worker, world)
  | .idle generator, operation :: rest =>
    match operation.begins? generator with
    | some run => (none, ⟨.running run, rest, worker.given⟩, world.record (.stepBegun run.label))
    | none =>
      let (outcome, after) := Session.perform host runner ⟨generator, world⟩ operation
      (some outcome, ⟨.idle after.generator, rest,
        worker.given ++ operation.drawn after.generator⟩, after.world)

def acts (host : Host) (runner : Runner) : Nat → Worker → World → Turned
  | 0, worker, world => (none, worker, world)
  | count + 1, worker, world =>
    match worker.act host runner world with
    | (some outcome, turned, after) => (some outcome, turned, after)
    | (none, turned, after) => acts host runner count turned after

end Worker

section Uninterrupted

variable {host : Host} {runner : Runner} {config : Config}

def Stage.left : Stage → Nat
  | checking => 3
  | fetching => 2
  | rendering => 1

theorem Stage.perform_left {stage next : Stage} {world after : World}
    (performed : (stage.perform host runner config).run world = (.ok (.inl next), after)) :
    next.left < stage.left := by
  cases stage with
  | checking =>
    simp only [perform, Action.run_bind] at performed
    split at performed
    next =>
      cases performed
      decide
    next => cases performed
  | fetching =>
    simp only [perform, Action.run_bind] at performed
    cases ensured : (Helm.ensureChart host runner config).run world with
    | mk result between =>
      rw [ensured] at performed
      cases result with
      | error failure => cases performed
      | ok pulled =>
        cases pulled <;>
        · cases performed
          decide
  | rendering =>
    simp only [perform, Action.run_bind] at performed
    split at performed
    next => cases performed
    next => cases performed

theorem Worker.acts_running (operations : List Operation) (given : List WorkingDirectory) :
    ∀ (count : Nat) (run : Run) (world : World), run.stage.left ≤ count →
      Worker.acts host runner count ⟨.running run, operations, given⟩ world =
        let (result, after) := (run.stage.remaining host runner run.config).run world
        (some (run.outcome result), ⟨.idle (.spent run.config), operations, given⟩,
          run.ended result after) := by
  -- A stage that does not end the run leads to one with fewer stages left.
  intro count
  induction count with
  | zero =>
    intro run world few
    cases stage : run.stage <;> simp [stage, Stage.left] at few
  | succ count ih =>
    intro run world few
    simp only [acts, act, proceed]
    rw [Stage.remaining_run]
    cases performed : (run.stage.perform host runner run.config).run world with
    | mk result after =>
      cases result with
      | error failure => rfl
      | ok reached =>
        cases reached with
        | inr output => rfl
        | inl next =>
          have fewer := Stage.perform_left performed
          exact ih { run with stage := next } after (by simp only; omega)

theorem Run.generate_eq {run : Run} {world after : World} {result : Except Failure Text.Bytes}
    (ran : (Stage.checking.remaining host runner run.config).run
      (world.record (.stepBegun run.label)) = (result, after)) :
    (Generator.ready run.config run.directory).generate host runner world =
      ⟨result, .spent run.config, run.ended result after⟩ := by
  unfold Run.label at ran
  simp only [Generator.generate, Generator.config, WorkingDirectory.within, Action.run_andFinally,
    Stage.inflate_eq, traced, Action.run_of, ran, Run.ended, Run.label]
  cases result <;> rfl

theorem Worker.acts_perform (generator : Generator) (operation : Operation) (rest : List Operation)
    (given : List WorkingDirectory) (world : World) :
    let (outcome, after) := Session.perform host runner ⟨generator, world⟩ operation
    Worker.acts host runner 4 ⟨.idle generator, operation :: rest, given⟩ world =
      (some outcome, ⟨.idle after.generator, rest, given ++ operation.drawn after.generator⟩,
        after.world) := by
  cases begun : operation.begins? generator with
  | none => simp only [acts, act, begun]
  | some run =>
    have first : Worker.acts host runner 4 ⟨.idle generator, operation :: rest, given⟩ world =
        Worker.acts host runner 3 ⟨.running run, rest, given⟩
          (world.record (.stepBegun run.label)) := by
      rw [acts, act]
      simp only [begun]
    rw [first]
    cases ran : (Stage.checking.remaining host runner run.config).run
        (world.record (.stepBegun run.label)) with
    | mk result after =>
      obtain ⟨config, directory, rfl⟩ :
          ∃ config directory, generator = .ready config directory := by
        rcases generator with ⟨_ | config, _ | directory⟩ <;> cases operation <;> cases begun <;>
          exact ⟨_, _, rfl⟩
      cases operation with
      | configure raw => cases begun
      | config => cases begun
      | generate =>
        cases begun
        rw [acts_running rest given 3 _ _ (by exact Nat.le_refl 3)]
        simp only [ran, Session.perform]
        rw [Run.generate_eq ran]
        simp only [Operation.drawn, List.append_nil, Run.outcome]
        rfl
      | objects =>
        cases begun
        rw [acts_running rest given 3 _ _ (by exact Nat.le_refl 3)]
        simp only [ran, Session.perform, Generator.objects]
        rw [Run.generate_eq ran]
        simp only [Operation.drawn, List.append_nil, Run.outcome, Generator.config]
        rfl

end Uninterrupted

structure Company (ι : Type) where
  workers : ι → Worker
  world : World

/-- What a turn shows of a member: the outcome of an operation that ended, the commands that were
issued, and what stands in the working directories that the member was given. -/
structure Sight where
  outcome : Option Outcome
  commands : List Command
  standing : List (Option Entry)

namespace Company

variable {ι : Type} [DecidableEq ι]

def gathered (operations : ι → List Operation) (start : World) : Company ι :=
  ⟨fun member => ⟨.idle .unconfigured, operations member, []⟩, start⟩

def turn (host : Host) (runners : ι → Runner) (company : Company ι) (member : ι) :
    Sight × Company ι :=
  let (outcome, worker, after) :=
    (company.workers member).act host (runners member) company.world
  (⟨outcome, after.commands.drop company.world.commands.length,
      worker.given.map fun directory => after.files.standing? directory.location⟩,
    ⟨Function.update company.workers member worker, after⟩)

def behind (host : Host) (runners : ι → Runner) (company : Company ι) (schedule : List ι) :
    Company ι :=
  schedule.foldl (fun company member => (company.turn host runners member).2) company

/-- What a schedule shows, turn by turn, with the member whose turn it is. -/
def sights (host : Host) (runners : ι → Runner) : Company ι → List ι → List (ι × Sight)
  | _, [] => []
  | company, member :: rest =>
    let (sight, after) := company.turn host runners member
    (member, sight) :: sights host runners after rest

end Company

end ChartManifests
