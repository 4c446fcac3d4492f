import ChartManifests.Proofs.Generator.Course
import ChartManifests.Proofs.Host.Places
import ChartManifests.Proofs.Resolve
/-!
The order of the commands of an inflation. The version is asked for first; what follows depends on
the answer, on whether the chart is there, and on nothing else; and whatever a command ends with is
what the inflation ends with.
-/

namespace ChartManifests

open Helm

/-- A text leads to a directory. A file in that place is none. -/
def Host.LeadsToDirectory (host : Host) (files : Files) (path : Text) : Prop :=
  ∃ name location, path.external = .ok name ∧ '\x00' ∉ name.toList ∧
    files.find host.current name = .ok (location, .directory)

theorem Host.hasDirectory_iff (host : Host) (files : Files) (path : Text) :
    host.hasDirectory files path = true ↔ host.LeadsToDirectory files path := by
  unfold Host.hasDirectory Host.LeadsToDirectory Files.hasDirectory
  cases path.external with
  | error fault => simp
  | ok name =>
    cases found : files.find host.current name with
    | error fault => simp [found]
    | ok reached =>
      obtain ⟨location, entry⟩ := reached
      simp [found]

/-- A runner answers a command among those that are issued one after the other. -/
def Runner.Answers (runner : Runner) (history : List Command) (files : Files)
    (issued : List Command) (command : Command) (answer : Answer) : Prop :=
  ∃ turn ∈ runner.turns history files issued, turn.command = command ∧ runner.answer turn = answer

section Answers

variable (runner : Runner) (history : List Command) (files : Files) (command : Command)
  (answer : Answer)

@[simp] theorem Runner.answers_nil : runner.Answers history files [] command answer ↔ False := by
  simp [Runner.Answers, Runner.turns]

@[simp] theorem Runner.answers_cons (first : Command) (rest : List Command) :
    runner.Answers history files (first :: rest) command answer ↔
      (first = command ∧ runner history first files = answer) ∨
      runner.Answers (history ++ [first]) (runner history first files).files rest command
        answer := by
  simp [Runner.Answers, Runner.turns, Runner.answer]

end Answers

/-- The law of the commands that an inflation issues, by the answers that it gets to them. -/
structure Pipeline (host : Host) (place : Text) (version pull template : Command)
    (answers : Command → Answer → Prop) (issued : List Command)
    (result : Except Failure Text.Bytes) : Prop where
  order : issued = [version] ∨ issued = [version, pull] ∨ issued = [version, template] ∨
    issued = [version, pull, template]
  continues : 1 < issued.length ↔ ∃ answer number, answers version answer ∧ gate answer = .ok number
  pulls : pull ∈ issued ↔ ∃ answer number, answers version answer ∧ gate answer = .ok number ∧
    ¬ host.LeadsToDirectory answer.files place
  renders : template ∈ issued ↔ ∃ answer number, answers version answer ∧
    gate answer = .ok number ∧ (host.LeadsToDirectory answer.files place ∨
      ∃ fetched output, answers pull fetched ∧ fetched.result = .ok output)
  returns : ∀ output, result = .ok output ↔
    ∃ answer, answers template answer ∧ answer.result = .ok output
  fails : ∀ failure, result = .error failure ↔
    (∃ answer, answers version answer ∧ gate answer = .error failure) ∨
    (∃ answer, answers pull answer ∧ answer.result = .error failure) ∨
    (∃ answer, answers template answer ∧ answer.result = .error failure)

theorem commands_distinct (config : Config) (args : List Text) :
    versionCommand config ≠ pullCommand config ∧ pullCommand config ≠ versionCommand config ∧
    versionCommand config ≠ command config .render (args.map some) ∧
    command config .render (args.map some) ≠ versionCommand config ∧
    pullCommand config ≠ command config .render (args.map some) ∧
    command config .render (args.map some) ≠ pullCommand config := by
  refine ⟨?_, ?_, ?_, ?_, ?_, ?_⟩ <;> exact fun same => by cases congrArg Command.purpose same

theorem Course.pipeline {host : Host} {runner : Runner} {config : Config} {history : List Command}
    {files : Files} {issued : List Command} {result : Except Failure Text.Bytes} {place : Text}
    {args : List Text} (course : Course host runner config history files issued result)
    (placed : config.chartDirectory = .ok place) (formed : templateArgs config = .ok args) :
    Pipeline host place (versionCommand config) (pullCommand config)
      (command config .render (args.map some)) (runner.Answers history files issued) issued
      result := by
  have distinct := commands_distinct config args
  have templateFormed := templateCommand_ok formed
  cases course with
  | unsupported refused =>
    constructor <;> simp [refused, distinct]
  | homeless accepted nowhere =>
    rw [placed] at nowhere
    cases nowhere
  | unfetched accepted found absent failed =>
    cases placed.symm.trans found
    rw [← Bool.not_eq_true, Host.hasDirectory_iff] at absent
    constructor <;> simp [accepted, absent, failed, distinct]
  | fetched accepted found absent fetched written =>
    cases placed.symm.trans found
    cases templateFormed.symm.trans written
    rw [← Bool.not_eq_true, Host.hasDirectory_iff] at absent
    constructor <;> simp [accepted, absent, fetched, distinct, Runner.leaves]
  | present accepted found there written =>
    cases placed.symm.trans found
    cases templateFormed.symm.trans written
    rw [Host.hasDirectory_iff] at there
    constructor <;> simp [accepted, there, distinct]

/-- What a generator issues that has just been configured, and what comes of it, whatever the files
are and whatever the runner does. In the end the working directory is gone. -/
theorem generate_pipeline {host : Host} {raw : RawConfig} {start configured : World}
    {config : Config} {directory : WorkingDirectory}
    (resolved : (Config.resolve host raw).run start = (.ok (config, directory), configured))
    (runner : Runner) (world : World) :
    ∃ place args issued, config.chartDirectory = .ok place ∧ templateArgs config = .ok args ∧
      let reply := (Generator.ready config directory).generate host runner world
      reply.world.commands = world.commands ++ issued ∧
      Pipeline host place
        ⟨config.helmBin :: versionArgs.map some, .helm, config.helmEnvironment⟩
        ⟨config.helmBin :: pullArgs config, .fetch, config.helmEnvironment⟩
        ⟨config.helmBin :: args.map some, .render, config.helmEnvironment⟩
        (runner.Answers world.commands world.files issued) issued reply.result ∧
      reply.world.files.isDirectory directory.location = false := by
  obtain ⟨place, placed⟩ := (Config.resolve_cases resolved).1.chartDirectory
  obtain ⟨args, formed⟩ := templateArgs_ok placed
  obtain ⟨issued, result, after, generated, course, carried⟩ :=
    generate_ready host runner config directory world
  refine ⟨place, args, issued, placed, formed, ?_⟩
  simp only [generated]
  refine ⟨carried.commands, course.pipeline placed formed, ?_⟩
  exact Files.isDirectory_removeDirectory_self after.files directory.location

theorem generate_pipeline_of_version :
    let host : Host := { current := [], environment := [], temporaryNames := toString }
    let runner : Runner := fun _ _ files => ⟨.ok (Text.Utf8.encode "v3.14.2"), files, []⟩
    let raw : RawConfig := .document (.map none [(.text "chartName", .text "nginx")])
    let world : World := ⟨Files.empty.add ["tmp"] .directory 0o777, 0, [], []⟩
    ∃ config directory configured,
      (Config.resolve host raw).run world = (.ok (config, directory), configured) ∧
      ∃ place args issued, config.chartDirectory = .ok place ∧ templateArgs config = .ok args ∧
        let reply := (Generator.ready config directory).generate host runner configured
        reply.world.commands = configured.commands ++ issued ∧
        Pipeline host place
          ⟨config.helmBin :: versionArgs.map some, .helm, config.helmEnvironment⟩
          ⟨config.helmBin :: pullArgs config, .fetch, config.helmEnvironment⟩
          ⟨config.helmBin :: args.map some, .render, config.helmEnvironment⟩
          (runner.Answers configured.commands configured.files issued) issued reply.result ∧
        reply.world.files.isDirectory directory.location = false := by
  intro host runner raw world
  obtain ⟨⟨config, directory⟩, configured, resolved⟩ :
      ∃ value after, (Config.resolve host raw).run world = (.ok value, after) := ⟨_, _, rfl⟩
  exact ⟨config, directory, configured, resolved, generate_pipeline resolved runner configured⟩

end ChartManifests
