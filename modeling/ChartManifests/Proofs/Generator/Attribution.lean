import ChartManifests.Proofs.Generator.Course
import ChartManifests.Proofs.Helm.Isolation
import ChartManifests.Proofs.Runner.Endings
/-!
Which step a failure comes from. The steps of an inflation are run for different purposes, and a
failure of a command bears the purpose of the command; so what an inflation fails with tells which
step came to which end, and it is the last one that was issued.
-/

namespace ChartManifests

open Helm

/-- What a failure says that a command was run for. An output that cannot be read is one of
rendering. -/
def Failure.purpose? : Failure → Option Purpose
  | command purpose _ _ => some purpose
  | unreadableOutput _ => some .render
  | _ => none

def Failure.IsVersion (failure : Failure) : Prop :=
  failure.purpose? = none ∧ failure.isReported = true

theorem Version.supported_fails (output : List Char) :
    FailsOnly Failure.IsVersion (Version.supported output) := by
  refine FailsOnly.bind ?_ ?_
  · unfold Version.parse
    split
    · exact FailsOnly.ok _
    · exact FailsOnly.error ⟨rfl, rfl⟩
  · intro version _
    split
    · exact FailsOnly.ok _
    · exact FailsOnly.error ⟨rfl, rfl⟩

variable {host : Host} {runner : Runner} {config : Config} {history : List Command} {files : Files}
  {failure : Failure}

theorem gate_fails {answer : Answer} (refused : gate answer = .error failure) :
    answer.result = .error failure ∨ failure.IsVersion := by
  unfold gate at refused
  cases answered : answer.result with
  | error raised =>
    rw [answered] at refused
    cases refused
    exact Or.inl rfl
  | ok output =>
    rw [answered] at refused
    exact Or.inr (Version.supported_fails _ failure refused)

theorem Course.last_fails {issued : List Command} {result : Except Failure Text.Bytes}
    {args : List Text} {purpose : Purpose}
    (course : Course host runner config history files issued result)
    (formed : templateArgs config = .ok args) (failed : result = .error failure)
    (borne : failure.purpose? = some purpose) :
    ∃ earlier step, issued = earlier ++ [step] ∧
      step ∈ [versionCommand config, pullCommand config, command config .render (args.map some)] ∧
      (runner (history ++ earlier) step (runner.leaves history files earlier)).result =
        .error failure := by
  have templateFormed := templateCommand_ok formed
  cases course with
  | unsupported refused =>
    cases failed
    have raised := (gate_fails refused).resolve_right fun version => by simp [version.1] at borne
    exact ⟨[], versionCommand config, rfl, by simp, by simpa [Runner.leaves] using raised⟩
  | homeless accepted nowhere =>
    cases failed
    cases borne
  | unfetched accepted found absent raised =>
    cases failed
    exact ⟨[versionCommand config], pullCommand config, rfl, by simp, raised⟩
  | fetched accepted found absent fetched written =>
    cases templateFormed.symm.trans written
    exact ⟨[versionCommand config, pullCommand config], _, rfl, by simp,
      by simpa using failed⟩
  | present accepted found there written =>
    cases templateFormed.symm.trans written
    exact ⟨[versionCommand config], _, rfl, by simp, failed⟩

theorem steps_distinct {args : List Text} {step other : Command}
    (among : step ∈ [versionCommand config, pullCommand config,
      command config .render (args.map some)])
    (also : other ∈ [versionCommand config, pullCommand config,
      command config .render (args.map some)])
    (same : other.purpose = step.purpose) : other = step := by
  simp only [List.mem_cons, List.not_mem_nil, or_false] at among also
  obtain rfl | rfl | rfl := among <;> obtain rfl | rfl | rfl := also <;> first
    | rfl
    | cases same

/-- Every end of a program is accounted for by the step that the program was started for, and the
purpose that the failure of a run bears tells which step has failed and how its program ended. -/
theorem generate_attributed {raw : RawConfig} {start configured : World}
    {directory : WorkingDirectory}
    (resolved : (Config.resolve host raw).run start = (.ok (config, directory), configured)) :
    ∃ args, templateArgs config = .ok args ∧
      let steps : List Command := [
        ⟨config.helmBin :: versionArgs.map some, .helm, config.helmEnvironment⟩,
        ⟨config.helmBin :: pullArgs config, .fetch, config.helmEnvironment⟩,
        ⟨config.helmBin :: args.map some, .render, config.helmEnvironment⟩]
      ∀ (machine : Machine) (child : Host) (limit : Int),
        let runner := Runner.subprocess machine child limit
        (∀ step ∈ steps, step.Attribution machine child limit) ∧
        ∀ world failure purpose,
          let reply := (Generator.ready config directory).generate host runner world
          reply.result = .error failure → failure.purpose? = some purpose →
            ∃ earlier, ∃ step ∈ steps, reply.world.commands = world.commands ++ earlier ++ [step] ∧
              step.purpose = purpose ∧ (∀ other ∈ steps, other.purpose = purpose → other = step) ∧
              ∃ ending fault, step.Ends machine child limit
                  (runner.leaves world.commands world.files earlier) ending ∧
                Accounts step ending fault failure := by
  obtain ⟨place, placed⟩ := (Config.resolve_cases resolved).1.chartDirectory
  obtain ⟨args, formed⟩ := templateArgs_ok placed
  refine ⟨args, formed, ?_⟩
  intro steps machine child limit runner
  refine ⟨?_, ?_⟩
  · intro step among
    refine Command.attribution ?_ machine child limit
    have environment : step.environment = config.helmEnvironment := by
      simp only [steps, List.mem_cons, List.not_mem_nil, or_false] at among
      obtain rfl | rfl | rfl := among <;> rfl
    rw [environment, names_helmEnvironment]
    decide
  · intro world failure purpose reply failed borne
    obtain ⟨issued, result, after, generated, course, carried⟩ :=
      generate_ready host runner config directory world
    simp only [reply, generated] at failed ⊢
    obtain ⟨earlier, step, rfl, among, raised⟩ := course.last_fails formed failed borne
    obtain ⟨ending, fault, ends, accounts⟩ | ⟨defect, rfl⟩ := Runner.subprocess_fails raised
    · cases accounts.own
      cases borne
      refine ⟨earlier, step, among, ?_, rfl, fun _ => steps_distinct among, ending, fault, ends,
        accounts⟩
      rw [List.append_assoc]
      exact carried.commands
    · cases borne

theorem generate_attributed_of_denied :
    let host : Host := { current := [], environment := [], temporaryNames := fun _ => "x" }
    let machine : Machine := fun _ files => (.exited 1 [] (Text.Utf8.encode "denied"), files)
    let raw : RawConfig := .document (.map none [(.text "chartName", .text "nginx")])
    let world : World := ⟨Files.empty.add ["tmp"] .directory 0o777, 0, [], []⟩
    ∃ config directory configured fault,
      (Config.resolve host raw).run world = (.ok (config, directory), configured) ∧
      let reply := (Generator.ready config directory).generate host
        (Runner.subprocess machine host 1000000) configured
      reply.result = .error (.command .helm (versionCommand config).line fault) ∧
        fault.errors? = some "denied" ∧
        ∃ earlier, reply.world.commands =
          configured.commands ++ earlier ++ [versionCommand config] := by
  intro host machine raw world
  obtain ⟨config, directory, configured, resolved, bin, set⟩ :
      ∃ config directory configured,
        (Config.resolve host raw).run world = (.ok (config, directory), configured) ∧
        config.helmBin = some (Text.ofString defaultBin) ∧
        config.helmHome = some ((WorkingDirectory.numbered host 0).path.child helmHomeName).text :=
    ⟨_, _, _, rfl, rfl, rfl⟩
  obtain ⟨args, formed, law⟩ := generate_attributed resolved
  obtain ⟨attribution, traced⟩ := law machine host 1000000
  have below : ((WorkingDirectory.numbered host 0).path.child helmHomeName).text =
      Text.ofString "/tmp/helm-inflator-x/.helm" := by decide
  rw [below] at set
  have passes := versionCommand_passes bin set (Text.passes_ofString rfl (by decide))
    (Text.passes_ofString rfl (by decide))
  have first : versionCommand config ∈ [versionCommand config, pullCommand config,
      command config .render (args.map some)] := List.mem_cons_self
  obtain ⟨ended, -, able, -⟩ := attribution _ first
  obtain ⟨ending, ends⟩ := (able nofun configured.files).mpr (Or.inr passes)
  have denied : ending = .exited 1 [] (Text.Utf8.encode "denied") := by
    cases ends with
    | late none => cases none
    | launched => rfl
  obtain ⟨returns, fails⟩ := ended configured.commands configured.files ending ends
  obtain ⟨issued, result, after, generated, course, carried⟩ :=
    generate_ready host (Runner.subprocess machine host 1000000) config directory configured
  cases answered : (Runner.subprocess machine host 1000000 configured.commands
      (versionCommand config) configured.files).result with
  | ok output =>
    obtain ⟨errors, succeeded⟩ := (returns output).mp answered
    cases denied.symm.trans succeeded
  | error failure =>
    obtain ⟨fault, accounts⟩ := fails _ answered
    obtain ⟨-, said, heard, reads, -⟩ := accounts.exited _ _ _ denied
    have whole : "denied" = said :=
      String.ext_iff.mpr ((reads _).mp (Text.Utf8.decodes_encode "denied"))
    cases accounts.own
    have refused : gate (Runner.subprocess machine host 1000000 configured.commands
        (versionCommand config) configured.files) =
        .error (.command .helm (versionCommand config).line fault) := by
      rw [gate, answered]
      rfl
    have failed : ((Generator.ready config directory).generate host
        (Runner.subprocess machine host 1000000) configured).result =
        .error (.command .helm (versionCommand config).line fault) := by
      rw [generated]
      cases course with
      | unsupported own =>
        cases own.symm.trans refused
        rfl
      | homeless accepted | unfetched accepted | fetched accepted | present accepted =>
        cases accepted.symm.trans refused
    obtain ⟨earlier, step, among, issues, -, only, -⟩ := traced configured _ .helm failed rfl
    rw [← only _ first rfl] at issues
    exact ⟨config, directory, configured, fault, resolved, failed, whole ▸ heard, earlier, issues⟩

end ChartManifests
