import ChartManifests.Proofs.Generator.Pipeline
import ChartManifests.Proofs.Helm.Options
import ChartManifests.Proofs.Host.Unlinked
import ChartManifests.Runner.Canned
/-!
A chart that is rendered is there. Helm unpacks a chart below the home of charts as the
configuration spells it, and under the last part of the reference; the chart is looked for, and
rendered, where the path of the configuration says. The two are spelled differently but lead to the
same directory, for the dots and slashes that a path leaves out lead nowhere.
-/

namespace ChartManifests

open Text

section Spellings

theorem withoutDots_spelled {parts : List Text} (has : ∀ part ∈ parts, HasBytes part) :
    Files.withoutDots ((parts.filter (· ≠ [])).map spelled) =
      (parts.filter Path.isName).map spelled := by
  rw [Files.withoutDots, List.filter_map, List.filter_filter]
  refine congrArg _ (List.filter_congr fun part present => ?_)
  have dot : spelled part = "." ↔ part = [Path.dot] := spelled_eq_iff rfl (has part present)
  simp [Path.isName, dot, Bool.and_comm]

theorem exists_steps_child {home name : Text} (fits : Path.Fits name)
    (has : HasBytes (home ++ Path.slash :: name)) :
    ∃ front, Files.steps (spelled (home ++ Path.slash :: name)) = front ++ [spelled name] ∧
      Files.steps (spelled ((Path.ofText home).child name).text) =
        Files.withoutDots front ++ [spelled name] := by
  have split : splitAt Path.slash (home ++ Path.slash :: name) =
      splitAt Path.slash home ++ [name] := by
    rw [splitAt_append_separator, splitAt_whole fits.2]
  have parts : ∀ part ∈ splitAt Path.slash home, HasBytes part := fun part present =>
    Path.hasBytes_of_mem_splitAt has (split ▸ List.mem_append_left _ present)
  have names := congrArg Path.names (Path.child_of_fits (Path.ofText home) fits)
  have named : ((Path.ofText home).child name).names ≠ [] := by simp [names]
  have proper := (Path.proper_ofText home).child name
  refine ⟨_, Path.steps_of_splitAt has split fits.ne_nil, ?_⟩
  rw [Path.steps_spelled proper named (has.sublist (Path.child_text_sublist home fits)), names,
    List.map_append, List.map_singleton, withoutDots_spelled parts]
  rfl

variable {host : Host} {files : Files} {home name : Text}

theorem Host.LeadsTo.child {goal : Location} (some : home ≠ []) (fits : Path.Fits name)
    (leads : host.LeadsTo files (home ++ Path.slash :: name) goal) :
    host.LeadsTo files ((Path.ofText home).child name).text goal := by
  obtain ⟨_, formed, located⟩ := leads
  obtain ⟨has, rfl⟩ := external_spelled formed
  have within := Path.child_text_sublist home fits
  have shortHas := has.sublist within
  obtain ⟨front, steps, ways⟩ := exists_steps_child fits has
  have absolute : Path.IsAbsolute (home ++ Path.slash :: name) ↔
      Path.IsAbsolute ((Path.ofText home).child name).text := by
    rw [Path.isAbsolute_text_child home fits, Path.IsAbsolute,
      List.head?_append_of_ne_nil _ some]
    rfl
  have written : spelled ((Path.ofText home).child name).text ≠ "" := by
    rw [ne_eq, spelled_eq_iff rfl shortHas]
    exact Path.text_child_ne_nil _ (Path.ofText_of_fits fits) fits.ne_nil
  -- A spelling that is short enough for a path leaves the path short enough as well.
  have shorter : (spelled ((Path.ofText home).child name).text).length ≤
      (spelled (home ++ Path.slash :: name)).length := by
    simpa only [spelled, String.length_ofList] using (spelling_sublist within).length_le
  obtain ⟨-, bounded, followed⟩ := Files.locate_iff.mp located
  refine ⟨_, external_iff.mpr ⟨shortHas, rfl⟩,
    Files.locate_iff.mpr ⟨written, Nat.lt_of_le_of_lt shorter bounded, ?_⟩⟩
  rw [Path.origin_spelled has, steps] at followed
  rw [Path.origin_spelled shortHas, ways, Files.follow_withoutDots]
  simpa only [absolute] using followed

theorem Host.hasDirectory_child (some : home ≠ []) (fits : Path.Fits name)
    (unpacked : host.hasDirectory files (home ++ Path.slash :: name) = true) :
    host.hasDirectory files ((Path.ofText home).child name).text = true := by
  obtain ⟨_, location, formed, nullFree, found⟩ := (host.hasDirectory_iff _ _).mp unpacked
  obtain ⟨led, standing⟩ := Files.find_iff.mp found
  have leads : host.LeadsTo files (home ++ Path.slash :: name) location := ⟨_, formed, led⟩
  obtain ⟨_, short, located⟩ := leads.child some fits
  refine (host.hasDirectory_iff _ _).mpr
    ⟨_, location, short, fun null => nullFree ?_, Files.find_iff.mpr ⟨located, standing⟩⟩
  rw [(external_spelled formed).2, spelled, String.toList_ofList]
  rw [(external_spelled short).2, spelled, String.toList_ofList] at null
  exact (spelling_sublist (Path.child_text_sublist home fits)).subset null

end Spellings

/-- A command fetches a chart by a reference, of some version and from some repository, and unpacks
it in a directory. -/
def Command.Fetches (command : Command) (directory reference : Text) : Prop :=
  ∃ program version address, command.words =
    [program, some (ofString "pull"), some (ofString "--untar"), some (ofString "--untardir"),
      some directory] ++ (Helm.flag "--version" version ++
        (Helm.flag "--repo" address ++ [reference])).map some

/-- What helm does: where it succeeds in fetching a chart, a directory is there under the last part
of the reference, in the directory that it was told to unpack it in. -/
def Runner.Unpacks (host : Host) (runner : Runner) : Prop :=
  ∀ history command files directory reference output, command.Fetches directory reference →
    (runner history command files).result = .ok output →
    host.hasDirectory (runner history command files).files
      (directory ++ Path.slash :: Script.lastPart reference) = true

namespace Config

variable {config : Config} {name : Text}

theorem Refers.lastPart {reference : Text} (refers : config.Refers reference)
    (named : config.chartName = some name) (single : Path.Fits name) :
    Script.lastPart reference = name := by
  have whole := splitAt_whole single.2
  cases refers with
  | alone _ other =>
    cases named.symm.trans other
    simp only [Script.lastPart, whole, List.getLast?_singleton, Option.getD_some]
  | below _ other =>
    cases named.symm.trans other
    rw [List.append_assoc]
    change Script.lastPart (_ ++ Path.slash :: name) = name
    simp only [Script.lastPart, splitAt_append_separator, whole, List.getLast?_concat,
      Option.getD_some]

theorem Completes.exists_home {raw : RawConfig} {root : Path}
    (completes : config.Completes raw root) (named : config.chartName = some name) :
    ∃ home reference, config.chartHome = some home ∧ home ≠ [] ∧ config.Refers reference ∧
      config.chartDirectory = .ok ((Path.ofText home).child name).text := by
  obtain ⟨given, own, -, same, rfl⟩ := completes
  cases named.symm.trans same
  obtain ⟨reference, refers⟩ := completed_refers given root same
  obtain ⟨home, set, some⟩ := given.completed_filled root name .chartHome (by decide)
  refine ⟨_, reference, set, some, refers, ?_⟩
  rw [completed_chartDirectory same]
  cases set
  rfl

end Config

namespace Helm

variable {host : Host} {runner : Runner} {config : Config} {place : Text}

def Delivers (host : Host) (runner : Runner) (config : Config) (place : Text) : Prop :=
  ∀ history files output, (runner history (pullCommand config) files).result = .ok output →
    host.hasDirectory (runner history (pullCommand config) files).files place = true

theorem delivers_of_unpacks {raw : RawConfig} {root : Path} {name : Text}
    (completes : config.Completes raw root) (named : config.chartName = some name)
    (single : Path.Fits name) (unpacks : runner.Unpacks host) :
    ∃ place, config.chartDirectory = .ok place ∧ Delivers host runner config place := by
  obtain ⟨home, reference, own, some, refers, placed⟩ := completes.exists_home named
  refine ⟨_, placed, fun history files output fetched => ?_⟩
  have fetches : (pullCommand config).Fetches home reference :=
    ⟨config.helmBin, _, _, congrArg (config.helmBin :: ·) (own ▸ pullArgs_eq refers)⟩
  have unpacked := unpacks _ _ _ _ _ _ fetches fetched
  rw [refers.lastPart named single] at unpacked
  exact host.hasDirectory_child some single unpacked

/-- The chart is in its place in a world that comes after another one, and was fetched if it was not
there before. From then on there is nothing left to do. -/
structure Ensured (host : Host) (config : Config) (place : Text) (before after : World)
    (fetched : Bool) : Prop where
  fetches : fetched = true ↔ host.hasDirectory before.files place = false
  there : (hasLocalChart host config).run after = (.ok true, after)
  again : ∀ other later, later.files = after.files →
    (ensureChart host other config).run later = (.ok false, later.record (.chartFound place))

theorem hasLocalChart_run (placed : config.chartDirectory = .ok place) (world : World) :
    (hasLocalChart host config).run world =
      (.ok (host.hasDirectory world.files place), world) := by
  simp only [hasLocalChart, Action.run_bind, Action.run_lift, Action.run_of, placed, mapError_ok]

theorem ensured_of_hasDirectory {before after : World} {fetched : Bool}
    (placed : config.chartDirectory = .ok place)
    (fetches : fetched = true ↔ host.hasDirectory before.files place = false)
    (there : host.hasDirectory after.files place = true) :
    Ensured host config place before after fetched := by
  refine ⟨fetches, ?_, fun other later same => ?_⟩
  · rw [hasLocalChart_run placed, there]
  · exact ensureChart_present other placed (same ▸ there)

theorem ensureChart_ensured (placed : config.chartDirectory = .ok place)
    (delivers : Delivers host runner config place) (world : World) :
    (∃ fetched after, (ensureChart host runner config).run world = (.ok fetched, after) ∧
      Ensured host config place world after fetched) ∨
    ∃ failure after, (ensureChart host runner config).run world = (.error failure, after) ∧
      host.hasDirectory world.files place = false ∧
      (runner world.commands (pullCommand config) world.files).result = .error failure := by
  cases there : host.hasDirectory world.files place with
  | true =>
    left
    refine ⟨false, _, ensureChart_present runner placed there, ?_⟩
    exact ensured_of_hasDirectory placed (by simp [there]) there
  | false =>
    obtain ⟨after, ended, carried⟩ := ensureChart_absent runner placed there
    cases answered : (runner world.commands (pullCommand config) world.files).result with
    | error failure =>
      rw [answered] at ended
      exact .inr ⟨failure, after, ended, rfl, rfl⟩
    | ok output =>
      rw [answered] at ended
      have delivered := delivers world.commands world.files output answered
      have files : after.files =
          (runner world.commands (pullCommand config) world.files).files := carried.files
      exact .inl ⟨true, after, ended,
        ensured_of_hasDirectory placed (by simp [there]) (files ▸ delivered)⟩

structure RendersFrom (host : Host) (config : Config) (place : Text) (turn : Turn) : Prop where
  formed : templateCommand config = .ok turn.command
  words : ∃ rest, turn.command.words = config.helmBin ::
    (Text.ofString "template" :: (nonEmpty? config.releaseName).toList ++ place :: rest).map some
  there : host.hasDirectory turn.files place = true

theorem rendersFrom_of_hasDirectory {turn : Turn} (placed : config.chartDirectory = .ok place)
    (formed : templateCommand config = .ok turn.command)
    (there : host.hasDirectory turn.files place = true) : RendersFrom host config place turn := by
  have written := templateCommand_ok (templateArgs_eq placed)
  exact ⟨formed, ⟨_, congrArg Command.words (Except.ok.inj (formed.symm.trans written))⟩, there⟩

end Helm

open Helm

theorem Course.rendersFrom {host : Host} {runner : Runner} {config : Config} {place : Text}
    {history : List Command} {files : Files} {issued : List Command}
    {result : Except Failure Text.Bytes}
    (course : Course host runner config history files issued result)
    (placed : config.chartDirectory = .ok place)
    (delivers : Delivers host runner config place) :
    ∀ turn ∈ runner.turns history files issued, turn.command = versionCommand config ∨
      turn.command = pullCommand config ∨ RendersFrom host config place turn := by
  cases course with
  | unsupported | homeless | unfetched => simp [Runner.turns]
  | fetched _ _ _ fetched formed =>
    simp only [Runner.turns, List.mem_cons, List.not_mem_nil, or_false]
    rintro turn (rfl | rfl | rfl)
    · exact .inl rfl
    · exact .inr (.inl rfl)
    · exact .inr (.inr (rendersFrom_of_hasDirectory placed formed (delivers _ _ _ fetched)))
  | present _ found there formed =>
    cases placed.symm.trans found
    simp only [Runner.turns, List.mem_cons, List.not_mem_nil, or_false]
    rintro turn (rfl | rfl)
    · exact .inl rfl
    · exact .inr (.inr (rendersFrom_of_hasDirectory placed formed there))

/-- A chart is where it is rendered from, however its home is spelled and whatever the files are, as
long as its name is a single part of a path and helm unpacks what it fetches. To ensure that it is
there either leads to where it is, and fetches it if and only if it was not there before, or fails
with the command to fetch it; once it is there, nothing more is done. What is generated issues no
command to render but one that names the place of the chart, and finds a directory there. -/
theorem generate_present {host : Host} {runner : Runner} {raw : RawConfig}
    {start configured : World} {config : Config} {directory : WorkingDirectory} {name : Text}
    (resolved : (Config.resolve host raw).run start = (.ok (config, directory), configured))
    (named : config.chartName = some name) (single : Path.Fits name)
    (unpacks : runner.Unpacks host) (world : World) :
    ∃ place, config.chartDirectory = .ok place ∧
      ((∃ fetched after, (ensureChart host runner config).run world = (.ok fetched, after) ∧
          Ensured host config place world after fetched) ∨
        ∃ failure after, (ensureChart host runner config).run world = (.error failure, after) ∧
          host.hasDirectory world.files place = false ∧
          (runner world.commands (pullCommand config) world.files).result = .error failure) ∧
      ∃ issued,
        ((Generator.ready config directory).generate host runner world).world.commands =
          world.commands ++ issued ∧
        ∀ turn ∈ runner.turns world.commands world.files issued,
          turn.command = versionCommand config ∨ turn.command = pullCommand config ∨
            RendersFrom host config place turn := by
  have completes := (Config.resolve_cases resolved).1
  obtain ⟨place, placed, delivers⟩ := delivers_of_unpacks completes named single unpacks
  obtain ⟨issued, result, after, generated, course, carried⟩ :=
    generate_ready host runner config directory world
  refine ⟨place, placed, ensureChart_ensured placed delivers world, issued, ?_,
    course.rendersFrom placed delivers⟩
  rw [generated]
  exact carried.commands

theorem generate_present_of_spelling :
    let host : Host := { current := [], environment := [], temporaryNames := fun _ => "x" }
    let start : World := ⟨Files.empty.add ["tmp"] .directory 0o777, 0, [], []⟩
    let root := Files.empty.add [] .directory Files.usualDirectory
    let files := root.add ["charts"] .directory Files.usualDirectory
    let world : World := ⟨files, 1, [], []⟩
    let raw : RawConfig := .document (.map none [(.text "chartName", .text "nginx"),
      (.text "chartHome", .text "./charts//"), (.text "chartRepoName", .text "stable")])
    let fetch : List (Option Text) := ["helm", "pull", "--untar", "--untardir", "./charts//",
      "stable/nginx"].map (some ∘ ofString)
    let runner : Runner := fun _ command files =>
      let made := files.add ["charts", "nginx"] .directory Files.usualDirectory
      if command.words[1]? ≠ some (some (ofString "pull")) then
        ⟨.ok (Utf8.encode "v3.14.2"), files, []⟩
      else if command.words = fetch ∧ host.hasDirectory made "./charts///nginx" = true then
        ⟨.ok [], made, []⟩
      else ⟨.error (.crashed "unexpected"), files, []⟩
    runner.Unpacks host ∧ Path.Fits "nginx" ∧ ∃ config directory configured,
      (Config.resolve host raw).run start = (.ok (config, directory), configured) ∧
      config.chartName = some "nginx" ∧ config.chartDirectory = .ok (ofString "charts/nginx") ∧
      ((ensureChart host runner config).run world).1.toOption = some true ∧
      ∃ place, config.chartDirectory = .ok place ∧
        ((∃ fetched after, (ensureChart host runner config).run world = (.ok fetched, after) ∧
            Ensured host config place world after fetched) ∨
          ∃ failure after, (ensureChart host runner config).run world = (.error failure, after) ∧
            host.hasDirectory world.files place = false ∧
            (runner world.commands (pullCommand config) world.files).result = .error failure) ∧
        ∃ issued,
          ((Generator.ready config directory).generate host runner world).world.commands =
            world.commands ++ issued ∧
          ∀ turn ∈ runner.turns world.commands world.files issued,
            turn.command = versionCommand config ∨ turn.command = pullCommand config ∨
              RendersFrom host config place turn := by
  intro host start root files world raw fetch runner
  have unpacks : runner.Unpacks host := by
    rintro history command files directory reference output ⟨program, version, address, words⟩
      answered
    have verb : command.words[1]? = some (some (ofString "pull")) := by
      rw [words]
      rfl
    simp only [runner, verb, ne_eq, not_true_eq_false, if_false] at answered ⊢
    split at answered
    next accepted =>
      rw [if_pos accepted]
      have directories := congrArg (·[4]?) (accepted.1.symm.trans words)
      have references := congrArg List.getLast? (accepted.1.symm.trans words)
      simp only [fetch, List.map_append, List.map_cons, List.map_nil, ← List.append_assoc,
        List.getLast?_concat] at references
      cases directories
      cases references
      exact accepted.2
    next => cases answered
  have fits : Path.Fits "nginx" := ⟨by decide, by decide⟩
  obtain ⟨config, directory, configured, resolved, named, placed, fetched⟩ :
      ∃ config directory configured,
        (Config.resolve host raw).run start = (.ok (config, directory), configured) ∧
        config.chartName = some "nginx" ∧ config.chartDirectory = .ok (ofString "charts/nginx") ∧
        ((ensureChart host runner config).run world).1.toOption = some true :=
    ⟨_, _, _, rfl, rfl, rfl, by decide +kernel⟩
  exact ⟨unpacks, fits, config, directory, configured, resolved, named, placed, fetched,
    generate_present resolved named fits unpacks world⟩

end ChartManifests
