import ChartManifests.Proofs.Generator.Course
import ChartManifests.Proofs.Helm.Options
/-!
The words of the commands for a configuration that was resolved. None of them is missing, and none
is empty but for the additional arguments, which end the command that renders and stand in no other.
So nothing that a configuration does not set is ever taken for a text.
-/

namespace ChartManifests

/-- A command is a program with words that are not empty, and then with extra words, whatever those
are. Its own variables all have a value. -/
structure Command.Formed (extras : List Text) (command : Command) : Prop where
  words : ∃ program front, program ≠ [] ∧ (∀ word ∈ front, word ≠ []) ∧
    command.words = (program :: front ++ extras).map some ∧
    command.line = Text.shellLine (program :: front ++ extras)
  environment : ∀ entry ∈ command.environment, ∃ value, entry.2 = some value ∧ value ≠ []

namespace Config

variable {config : Config}

theorem chartDirectory_ne_nil {place : Text} (placed : config.chartDirectory = .ok place) :
    place ≠ [] := by
  simp only [chartDirectory, chartPath] at placed
  split at placed
  next => cases placed
  next => cases placed
  next home name _ _ =>
    cases placed
    exact ((Path.proper_ofText home).child name).text_ne_nil

theorem Refers.ne_nil {reference name : Text} (refers : config.Refers reference)
    (named : config.chartName = some name) (some : name ≠ []) : reference ≠ [] := by
  cases refers with
  | alone _ own =>
    cases Option.some.inj (named.symm.trans own)
    exact some
  | below _ own =>
    cases Option.some.inj (named.symm.trans own)
    exact List.append_ne_nil_of_right_ne_nil _ some

theorem Filled.helmEnvironment (filled : config.Filled) :
    ∃ home, config.helmHome = some home ∧ home ≠ [] ∧
      config.helmEnvironment = [("HELM_CONFIG_HOME", some home),
        ("HELM_CACHE_HOME", some (home ++ "/.cache")),
        ("HELM_DATA_HOME", some (home ++ "/.data"))] := by
  obtain ⟨home, set, some⟩ := filled .helmHome (by decide)
  have own : config.helmHome = Option.some home := set
  exact ⟨home, own, some, by simp only [Config.helmEnvironment, own, formatted, Option.getD_some]⟩

end Config

namespace Helm

open Config

variable {config : Config}

theorem flag_ne_nil {name : String} (some : Text.ofString name ≠ []) (value : Option Text) :
    ∀ word ∈ flag name value, word ≠ [] := by
  generalize held : flag name value = words
  have flagged := held ▸ flagged_flag name value
  cases flagged with
  | nothing => exact nofun
  | given other =>
    simp only [List.forall_mem_cons]
    exact ⟨some, other, nofun⟩

theorem command_formed (filled : config.Filled) (purpose : Purpose) {front : List Text}
    (some : ∀ word ∈ front, word ≠ []) (extras : List Text) :
    (command config purpose ((front ++ extras).map Option.some)).Formed extras := by
  constructor
  · obtain ⟨program, set, other⟩ := filled .helmBin (by decide)
    have own : config.helmBin = Option.some program := set
    refine ⟨program, front, other, some, ?_, ?_⟩
    · rw [command, own]
      rfl
    · rw [Command.line, command, own, List.map_cons, List.map_map]
      exact congrArg Text.shellLine (congrArg (program :: ·) (List.map_id _))
  · obtain ⟨home, -, other, set⟩ := filled.helmEnvironment
    rw [command, set]
    simp [other]

theorem versionCommand_formed (filled : config.Filled) : (versionCommand config).Formed [] := by
  have some : ∀ word ∈ versionArgs, word ≠ [] := by decide
  have formed := command_formed filled .helm some []
  rwa [List.append_nil] at formed

theorem pullCommand_formed (filled : config.Filled) {name reference : Text}
    (named : config.chartName = some name) (some : name ≠ []) (refers : config.Refers reference) :
    (pullCommand config).Formed [] := by
  obtain ⟨home, set, other⟩ := filled .chartHome (by decide)
  have own : config.chartHome = Option.some home := set
  have words : pullArgs config = ([Text.ofString "pull", Text.ofString "--untar",
      Text.ofString "--untardir", home] ++ (flag "--version" config.chartVersion ++
        (flag "--repo" config.chartRepoUrl ++ [reference])) ++ []).map Option.some := by
    rw [pullArgs_eq refers, own, List.append_nil]
    rfl
  rw [pullCommand, words]
  refine command_formed filled .fetch ?_ []
  simp only [List.forall_mem_append, List.forall_mem_cons, List.not_mem_nil, false_implies,
    implies_true, and_true]
  exact ⟨⟨by decide, by decide, by decide, other⟩, flag_ne_nil (by decide) _,
    flag_ne_nil (by decide) _, refers.ne_nil named some⟩

theorem templateArgs_extras {place : Text} (placed : config.chartDirectory = .ok place) :
    ∃ front, (∀ word ∈ front, word ≠ []) ∧ ∀ words : Option (List Text),
      templateArgs { config with extraArgs := words } = .ok (front ++ words.getD []) := by
  refine ⟨Text.ofString "template" :: ((nonEmpty? config.releaseName).toList ++ place ::
    (flag "--namespace" config.releaseNamespace ++ flag "--values" config.values)), ?_, ?_⟩
  · simp only [List.forall_mem_append, List.forall_mem_cons]
    refine ⟨by decide, fun word present => ?_, chartDirectory_ne_nil placed,
      flag_ne_nil (by decide) _, flag_ne_nil (by decide) _⟩
    exact (nonEmpty?_eq_some.mp (Option.mem_toList.mp present)).2
  · intro words
    have same : ({ config with extraArgs := words } : Config).chartDirectory = .ok place := placed
    rw [templateArgs_eq same]
    simp

theorem issued_cases {host : Host} {runner : Runner} {history issued : List Command}
    {files : Files} {result : Except Failure Text.Bytes}
    (course : Course host runner config history files issued result) :
    ∀ command ∈ issued, command = versionCommand config ∨ command = pullCommand config ∨
      templateCommand config = .ok command := by
  cases course <;> simp [*]

/-- For a configuration that was resolved every command is formed, whichever it is and whatever the
runner did before. The additional arguments end the command that renders, and no other command and
nothing in front of them depends on them. The reference of the chart, the directory of the chart and
the environment are put together from texts that are there. -/
theorem commands_formed {host : Host} {raw : RawConfig} {start after : World} {config : Config}
    {directory : WorkingDirectory}
    (resolved : (resolve host raw).run start = (.ok (config, directory), after)) :
    (versionCommand config).Formed [] ∧ (pullCommand config).Formed [] ∧
    (∃ command, templateCommand config = .ok command ∧
      command.Formed (config.extraArgs.getD [])) ∧
    (∃ front, (∀ word ∈ front, word ≠ []) ∧ ∀ words : Option (List Text),
      let other := { config with extraArgs := words }
      templateArgs other = .ok (front ++ words.getD []) ∧
        versionCommand other = versionCommand config ∧ pullCommand other = pullCommand config) ∧
    (∃ name repository reference, config.chartName = some name ∧ name ≠ [] ∧
      config.chartRepoName = some repository ∧ repository ≠ [] ∧ config.Refers reference ∧
      (pullCommand config).words.getLast? = some (some reference)) ∧
    (∃ place, config.chartDirectory = .ok place ∧ place ≠ []) ∧
    (∃ home, config.helmHome = some home ∧ home ≠ [] ∧
      config.helmEnvironment = [("HELM_CONFIG_HOME", some home),
        ("HELM_CACHE_HOME", some (home ++ "/.cache")),
        ("HELM_DATA_HOME", some (home ++ "/.data"))]) ∧
    ∀ (runner : Runner) (world : World), ∃ issued,
      ((Generator.ready config directory).generate host runner world).world.commands =
        world.commands ++ issued ∧
      ∀ command ∈ issued, command.Formed [] ∨
        command.purpose = .render ∧ command.Formed (config.extraArgs.getD []) := by
  obtain ⟨⟨given, name, accepted, named, completed⟩, -⟩ := resolve_cases resolved
  obtain ⟨own, same, some⟩ := readNamed_name accepted
  cases Option.some.inj (named.symm.trans same)
  obtain ⟨place, args, reference, placed, formed, refers, filled, -⟩ :=
    exists_args ⟨host, raw, start, directory, after, accepted, resolved⟩
  have chart : config.chartName = Option.some name := completed ▸ named
  have version := versionCommand_formed filled
  have pull := pullCommand_formed filled chart some refers
  obtain ⟨front, whole, begins⟩ := templateArgs_extras placed
  have template : templateCommand config = .ok
      (command config .render ((front ++ config.extraArgs.getD []).map Option.some)) :=
    templateCommand_ok (begins config.extraArgs)
  have rendering := command_formed filled .render whole (config.extraArgs.getD [])
  obtain ⟨repository, stored, other⟩ := filled .chartRepoName (by decide)
  refine ⟨version, pull, ⟨_, template, rendering⟩,
    ⟨front, whole, fun words => ⟨begins words, rfl, rfl⟩⟩,
    ⟨name, repository, reference, chart, some, stored, other, refers, ?_⟩,
    ⟨place, placed, chartDirectory_ne_nil placed⟩, filled.helmEnvironment, ?_⟩
  · rw [pullCommand, command, pullArgs, refers.reference, ← List.cons_append, List.getLast?_concat]
  · intro runner world
    obtain ⟨issued, result, last, generated, course, carried⟩ :=
      generate_ready host runner config directory world
    refine ⟨issued, ?_, fun command present => ?_⟩
    · rw [generated]
      exact carried.commands
    · obtain rfl | rfl | written := issued_cases course command present
      · exact .inl version
      · exact .inl pull
      · cases template.symm.trans written
        exact .inr ⟨rfl, rendering⟩

theorem commands_formed_of_empty :
    let host : Host := { current := [], environment := [], temporaryNames := fun _ => "x" }
    let start : World := ⟨Files.empty.add ["tmp"] .directory 0o777, 0, [], []⟩
    let raw : RawConfig := .document (.map none [(.text "chartName", .text "nginx"),
      (.text "releaseName", .text ""), (.text "extraArgs", .list none [.text "--set", .text ""])])
    ∃ config directory after, (resolve host raw).run start = (.ok (config, directory), after) ∧
      config.extraArgs = some [Text.ofString "--set", []] ∧ (pullCommand config).Formed [] ∧
      ∃ command, templateCommand config = .ok command ∧
        command.Formed [Text.ofString "--set", []] := by
  intro host start raw
  obtain ⟨config, directory, after, resolved, extras⟩ : ∃ config directory after,
      (resolve host raw).run start = (.ok (config, directory), after) ∧
      config.extraArgs = some [Text.ofString "--set", []] := ⟨_, _, _, rfl, rfl⟩
  obtain ⟨-, pull, template, -⟩ := commands_formed resolved
  rw [extras] at template
  exact ⟨config, directory, after, resolved, extras, pull, template⟩

end Helm

end ChartManifests
