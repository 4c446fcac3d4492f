import ChartManifests.Proofs.Config.Containment
import ChartManifests.Proofs.Generator.Course
import ChartManifests.Proofs.Runner.Launch
/-!
What keeps helm apart from the host. Three variables tell helm where its own files are; every
machine is handed these for a configuration, whatever the host has under their names, and everything
else from the host. So two hosts that differ in no other variable are the same
to helm.
-/

namespace ChartManifests

/-- The commands that an action adds to those that were issued before it. -/
def Action.issued {α : Type} (action : Action α) (world : World) : List Command :=
  (action.run world).2.commands.drop world.commands.length

theorem Action.issued_of_carries {α : Type} {action : Action α} {runner : Runner}
    {commands : List Command} {world after : World} {result : Except Failure α}
    (ran : action.run world = (result, after)) (carried : runner.Carries commands world after) :
    action.issued world = commands := by
  rw [Action.issued, ran, carried.commands, List.drop_left]

namespace Helm

variable {config : Config} {command : Command}

/-- A command that is issued for a configuration: by one of helm's steps, or while a chart is
inflated. -/
inductive Issues (config : Config) (command : Command) : Prop
  | checks (runner : Runner) (world : World) :
      command ∈ (checkVersion runner config).issued world → Issues config command
  | pulls (runner : Runner) (world : World) :
      command ∈ (pull runner config).issued world → Issues config command
  | renders (runner : Runner) (world : World) :
      command ∈ (template runner config).issued world → Issues config command
  | inflates (host : Host) (runner : Runner) (world : World) :
      command ∈ (Generator.inflate host runner config).issued world → Issues config command

theorem template_run_unformed (runner : Runner) (world : World) {defect : PathDefect}
    (unformed : templateCommand config = .error defect) :
    ((template runner config).run world).2.commands = world.commands := by
  obtain ⟨event, left⟩ := traced_world "helm template" config.chartName (do
    let command ← Action.lift ((templateCommand config).mapError Failure.path)
    runner.run command) world
  rw [template, left]
  simp only [unformed, mapError_error, Action.run_bind, Action.run_lift]
  rfl

theorem environment_of_templateCommand (formed : templateCommand config = .ok command) :
    command.environment = config.helmEnvironment := by
  unfold templateCommand at formed
  cases args : templateArgs config with
  | error defect => simp [args, Except.map] at formed
  | ok words =>
    simp only [args, Except.map, Except.ok.injEq] at formed
    rw [← formed]
    rfl

theorem environment_of_course {host : Host} {runner : Runner} {history : List Command}
    {files : Files} {issued : List Command} {result : Except Failure Text.Bytes}
    (course : Course host runner config history files issued result) :
    ∀ command ∈ issued, command.environment = config.helmEnvironment := by
  cases course with
  | unsupported | homeless | unfetched => simp [versionCommand, pullCommand, Helm.command]
  | fetched _ _ _ _ formed =>
    simp [versionCommand, pullCommand, Helm.command, environment_of_templateCommand formed]
  | present _ _ _ formed =>
    simp [versionCommand, Helm.command, environment_of_templateCommand formed]

theorem Issues.environment (issues : Issues config command) :
    command.environment = config.helmEnvironment := by
  cases issues with
  | checks runner world among =>
    obtain ⟨after, ran, carried⟩ := checkVersion_run runner config world
    rw [Action.issued_of_carries ran carried, List.mem_singleton] at among
    rw [among]
    rfl
  | pulls runner world among =>
    obtain ⟨after, ran, carried⟩ := pull_run runner config world
    rw [Action.issued_of_carries ran carried, List.mem_singleton] at among
    rw [among]
    rfl
  | renders runner world among =>
    cases formed : templateCommand config with
    | error defect =>
      rw [Action.issued, template_run_unformed runner world formed, List.drop_length] at among
      cases among
    | ok command =>
      obtain ⟨after, ran, carried⟩ := template_run runner world formed
      rw [Action.issued_of_carries ran carried, List.mem_singleton] at among
      rw [among]
      exact environment_of_templateCommand formed
  | inflates host runner world among =>
    obtain ⟨issued, result, after, ran, course, carried⟩ :=
      inflate_course host runner config world
    rw [Action.issued_of_carries ran carried] at among
    exact environment_of_course course command among

def homeVariables : List String := ["HELM_CONFIG_HOME", "HELM_CACHE_HOME", "HELM_DATA_HOME"]

/-- What a machine is handed for a command: helm's files are below a home, whatever the host says,
and all other variables are those of the host. -/
structure Isolated (host : Host) (home : Text) (launch : Launch) : Prop where
  config : launch.environment.lookup "HELM_CONFIG_HOME" = some home.spelled
  cache : launch.environment.lookup "HELM_CACHE_HOME" = some (home ++ "/.cache" : Text).spelled
  data : launch.environment.lookup "HELM_DATA_HOME" = some (home ++ "/.data" : Text).spelled
  others : ∀ name ∉ homeVariables, launch.environment.lookup name =
    (host.environment.lookup name).map fun value => (Text.ofString value).spelled

def AgreeElsewhere (left right : Host) : Prop :=
  ∀ name ∉ homeVariables, left.environment.lookup name = right.environment.lookup name

theorem names_helmEnvironment (config : Config) :
    config.helmEnvironment.map Prod.fst = homeVariables := rfl

theorem Issues.distinct (issues : Issues config command) :
    (command.environment.map Prod.fst).Nodup := by
  rw [issues.environment, names_helmEnvironment]
  decide

theorem lookup_helmEnvironment {home : Text} (set : config.helmHome = some home) :
    config.helmEnvironment.lookup "HELM_CONFIG_HOME" = some (some home) ∧
    config.helmEnvironment.lookup "HELM_CACHE_HOME" = some (some (home ++ "/.cache")) ∧
    config.helmEnvironment.lookup "HELM_DATA_HOME" = some (some (home ++ "/.data")) ∧
    ∀ name ∉ homeVariables, config.helmEnvironment.lookup name = none := by
  simp only [Config.helmEnvironment, set, formatted, Option.getD_some]
  refine ⟨rfl, rfl, rfl, ?_⟩
  intro name other
  simp only [homeVariables, List.mem_cons, List.not_mem_nil, or_false, not_or] at other
  simp only [List.lookup_cons, beq_false_of_ne other.1, beq_false_of_ne other.2.1,
    beq_false_of_ne other.2.2, List.lookup_nil]

theorem versionCommand_passes {bin home : Text} (named : config.helmBin = some bin)
    (set : config.helmHome = some home) (known : bin.Passes) (reached : home.Passes) :
    (versionCommand config).Passes := by
  refine ⟨by simp [versionCommand, Helm.command], ?_, ?_⟩
  · simp only [versionCommand, Helm.command, versionArgs, named, List.map_cons, List.map_nil,
      List.forall_mem_cons, List.not_mem_nil, false_implies, implies_true, and_true,
      Option.some.injEq, exists_eq_left']
    exact ⟨known, Text.passes_ofString rfl (by decide), Text.passes_ofString rfl (by decide),
      Text.passes_ofString rfl (by decide)⟩
  · simp only [versionCommand, Helm.command, Config.helmEnvironment, formatted, set,
      List.forall_mem_cons, List.not_mem_nil, false_implies, implies_true, and_true,
      Option.some.injEq, exists_eq_left', Option.getD_some]
    exact ⟨⟨⟨by decide, by decide⟩, reached⟩,
      ⟨⟨by decide, by decide⟩, reached.append (Text.passes_ofString rfl (by decide))⟩,
      ⟨by decide, by decide⟩, reached.append (Text.passes_ofString rfl (by decide))⟩

theorem Issues.isolated {home : Text} {host : Host} {limit : Int} {launch : Launch}
    (issues : Issues config command) (set : config.helmHome = some home)
    (hands : Runner.Hands host limit command launch) : Isolated host home launch := by
  have known := Command.lookup_launch issues.distinct (Runner.hands_iff.mp hands).2
  rw [issues.environment] at known
  obtain ⟨configHome, cacheHome, dataHome, others⟩ := lookup_helmEnvironment set
  refine ⟨?_, ?_, ?_, ?_⟩
  · rw [known, configHome]
    rfl
  · rw [known, cacheHome]
    rfl
  · rw [known, dataHome]
    rfl
  · intro name other
    rw [known, others name other]

theorem Isolated.agree {left right : Host} {home : Text} {first second : Launch}
    (agree : AgreeElsewhere left right) (own : Isolated left home first)
    (other : Isolated right home second) (name : String) :
    first.environment.lookup name = second.environment.lookup name := by
  by_cases ours : name ∈ homeVariables
  · simp only [homeVariables, List.mem_cons, List.not_mem_nil, or_false] at ours
    obtain rfl | rfl | rfl := ours
    · exact own.config.trans other.config.symm
    · exact own.cache.trans other.cache.symm
    · exact own.data.trans other.data.symm
  · rw [own.others name ours, other.others name ours, agree name ours]

end Helm

namespace Config

open Helm

variable {host : Host} {raw : RawConfig} {config : Config} {directory : WorkingDirectory}

theorem homes_lieInside {root : Path} (proper : root.Proper) (downward : Path.up ∉ root.names) :
    ∀ suffix ∈ ([[], "/.cache", "/.data"] : List Text),
      (Path.ofText ((root.child helmHomeName).text ++ suffix)).LiesInside root := by
  have home : root.child helmHomeName = ⟨root.origin, root.names ++ [Text.ofString ".helm"]⟩ :=
    Path.child_relative rfl
  have named : (root.child helmHomeName).names ≠ [] := by simp [home]
  have below : ∀ name : Text, Path.ofText name = ⟨.relative, [name]⟩ → name ≠ Path.up →
      (Path.ofText ((root.child helmHomeName).text ++ Path.slash :: name)).LiesInside root := by
    intro name single differs
    rw [← Path.text_child named single, Path.ofText_text ((proper.child _).child name)]
    have names : ((root.child helmHomeName).child name).names =
        root.names ++ Text.ofString ".helm" :: [name] := by
      rw [Path.child_relative (by rw [single]), single, home, List.append_assoc]
      rfl
    refine Path.liesInside_of_names ?_ names ?_
    · rw [Path.origin_child (by rw [single]), home]
    · rw [names, List.mem_append, not_or]
      refine ⟨downward, ?_⟩
      simp only [List.mem_cons, List.not_mem_nil, or_false, not_or]
      exact ⟨by decide, differs.symm⟩
  simp only [List.mem_cons, List.not_mem_nil, or_false, forall_eq_or_imp, forall_eq]
  refine ⟨?_, below ".cache" (by decide) (by decide), below ".data" (by decide) (by decide)⟩
  rw [List.append_nil, Path.ofText_text (proper.child _)]
  refine Path.liesInside_of_names (by rw [home]) (congrArg Path.names home) ?_
  rw [home, List.mem_append, List.mem_singleton, not_or]
  exact ⟨downward, by decide⟩

/-- Whatever a runner of programs hands over to its machine for a resolved configuration has helm's
files below one home and everything else from the host; it hands something over whenever there is
time and a program can be made of the command. Hosts that differ in nothing else are the same to the
machine. A home that is not set lies in the working directory. -/
theorem environment_isolated {given : Config} {start after : World} (plain : host.NamesPlainly)
    (read : readNamed raw = .ok given)
    (resolved : (resolve host raw).run start = (.ok (config, directory), after)) :
    ∃ home, config.helmHome = some home ∧
      (∀ command, Issues config command → ∀ child limit,
        (child.HasVariables → ((∃ launch, Runner.Hands child limit command launch) ↔
          0 < limit ∧ command.Passes)) ∧
        ∀ launch, Runner.Hands child limit command launch → Isolated child home launch) ∧
      (∀ command, Issues config command → ∀ left right limit, AgreeElsewhere left right →
        (∀ first second, Runner.Hands left limit command first →
          Runner.Hands right limit command second →
          ∀ name, first.environment.lookup name = second.environment.lookup name) ∧
        (left.HasVariables → right.HasVariables →
          ((∃ launch, Runner.Hands left limit command launch) ↔
            ∃ launch, Runner.Hands right limit command launch))) ∧
      (nonEmpty? given.helmHome = none →
        ∀ suffix ∈ ([[], "/.cache", "/.data"] : List Text),
          (Path.ofText (home ++ suffix)).LiesInside directory.path) := by
  obtain ⟨name, named, -⟩ := readNamed_name read
  obtain ⟨rfl, rfl, -⟩ := resolve_given read named resolved
  refine ⟨_, rfl, ?_, ?_, ?_⟩
  · intro command issues child limit
    exact ⟨fun orderly => Runner.exists_hands_iff orderly issues.distinct,
      fun launch hands => issues.isolated rfl hands⟩
  · intro command issues left right limit agree
    constructor
    · intro first second onLeft onRight name
      exact Isolated.agree agree (issues.isolated rfl onLeft) (issues.isolated rfl onRight) name
    · intro orderly other
      rw [Runner.exists_hands_iff orderly issues.distinct,
        Runner.exists_hands_iff other issues.distinct]
  · intro unset
    rw [unset, Option.getD_none]
    exact homes_lieInside (WorkingDirectory.proper_path plain start.directories)
      (WorkingDirectory.up_not_mem_path host start.directories)

theorem environment_isolated_of_dataHome :
    let host : Host := {
      current := []
      environment := [("HELM_DATA_HOME", "/srv/helm"), ("LANG", "C")]
      temporaryNames := fun _ => "x" }
    let world : World := ⟨Files.empty.add ["tmp"] .directory 0o777, 0, [], []⟩
    let raw : RawConfig := .document (.map none [(.text "chartName", .text "nginx")])
    ∃ given config directory after, host.NamesPlainly ∧ readNamed raw = .ok given ∧
      (resolve host raw).run world = (.ok (config, directory), after) ∧
      Issues config (versionCommand config) ∧ nonEmpty? given.helmHome = none ∧
      ∃ home launch, config.helmHome = some home ∧
        Runner.Hands host 1 (versionCommand config) launch ∧ Isolated host home launch ∧
        (Path.ofText (home ++ "/.data")).LiesInside directory.path := by
  intro host world raw
  have plain : host.NamesPlainly := Host.namesPlainly_of_single (fun _ => rfl) rfl
  obtain ⟨given, config, directory, after, read, unset, resolved, bin, set⟩ :
      ∃ given config directory after, readNamed raw = .ok given ∧
        nonEmpty? given.helmHome = none ∧
        (resolve host raw).run world = (.ok (config, directory), after) ∧
        config.helmBin = some (Text.ofString defaultBin) ∧
        config.helmHome = some ((WorkingDirectory.numbered host 0).path.child helmHomeName).text :=
    ⟨_, _, _, _, rfl, rfl, rfl, rfl, rfl⟩
  have issues : Issues config (versionCommand config) := by
    let runner : Runner := fun _ _ files => ⟨.ok [], files, []⟩
    obtain ⟨_, ran, carried⟩ := checkVersion_run runner config world
    refine .checks runner world ?_
    rw [Action.issued_of_carries ran carried]
    exact List.mem_singleton_self _
  obtain ⟨home, own, handed, -, inside⟩ := environment_isolated plain read resolved
  cases set.symm.trans own
  have orderly : host.HasVariables := by
    intro entry present
    simp only [host, List.mem_cons, List.not_mem_nil, or_false] at present
    obtain rfl | rfl := present
    · exact ⟨⟨by decide, by decide⟩, Text.passes_ofString rfl (by decide)⟩
    · exact ⟨⟨by decide, by decide⟩, Text.passes_ofString rfl (by decide)⟩
  have passes : (versionCommand config).Passes := by
    have below : ((WorkingDirectory.numbered host 0).path.child helmHomeName).text =
        Text.ofString "/tmp/helm-inflator-x/.helm" := by decide
    rw [below] at set
    exact versionCommand_passes bin set (Text.passes_ofString rfl (by decide))
      (Text.passes_ofString rfl (by decide))
  obtain ⟨able, isolated⟩ := handed _ issues host 1
  obtain ⟨launch, hands⟩ := (able orderly).mpr ⟨by decide, passes⟩
  exact ⟨given, config, directory, after, plain, read, resolved, issues, unset, _, launch, set,
    hands, isolated launch hands, inside unset _ (by simp)⟩

end Config

end ChartManifests
