import ChartManifests.Proofs.Config.Blanks
import ChartManifests.Proofs.Config.Defaults
import ChartManifests.Proofs.Helm
/-!
What reaches helm of the options of a configuration. Two configurations that differ in nothing that
is not empty make the same commands once they are completed below the same directory, so it does not
matter in which way an option was left open, and no flag stands before an empty value. Nor is
anything lost: the words of a command tell which options they come from.
-/

namespace ChartManifests

namespace Config

open Entries

structure ActsAs (left right : Config) : Prop where
  chartDirectory : left.chartDirectory = right.chartDirectory
  helmEnvironment : left.helmEnvironment = right.helmEnvironment
  helmBin : left.helmBin = right.helmBin
  versionCommand : Helm.versionCommand left = Helm.versionCommand right
  pullArgs : Helm.pullArgs left = Helm.pullArgs right
  templateArgs : Helm.templateArgs left = Helm.templateArgs right

variable {left right : Config} {name : Text}

theorem Alike.named (alike : left.Alike right) (named : left.chartName = some name)
    (some : name ≠ []) : right.chartName = Option.some name := by
  have same : nonEmpty? left.chartName = nonEmpty? right.chartName := alike.settings .chartName
  rw [nonEmpty?_eq_some.mpr ⟨named, some⟩] at same
  exact (nonEmpty?_eq_some.mp same.symm).1

theorem Alike.completed (alike : left.Alike right) (named : left.chartName = some name)
    (some : name ≠ []) (root : Path) :
    (left.completed root name).ActsAs (right.completed root name) := by
  have chartName : left.chartName = right.chartName := named.trans (alike.named named some).symm
  have chartHome : nonEmpty? left.chartHome = nonEmpty? right.chartHome :=
    alike.settings .chartHome
  have repoName : nonEmpty? left.chartRepoName = nonEmpty? right.chartRepoName :=
    alike.settings .chartRepoName
  have helmBin : nonEmpty? left.helmBin = nonEmpty? right.helmBin := alike.settings .helmBin
  have helmHome : nonEmpty? left.helmHome = nonEmpty? right.helmHome := alike.settings .helmHome
  have values : nonEmpty? left.values = nonEmpty? right.values := alike.settings .values
  have version : nonEmpty? left.chartVersion = nonEmpty? right.chartVersion :=
    alike.settings .chartVersion
  have repoUrl : nonEmpty? left.chartRepoUrl = nonEmpty? right.chartRepoUrl :=
    alike.settings .chartRepoUrl
  have release : nonEmpty? left.releaseName = nonEmpty? right.releaseName :=
    alike.settings .releaseName
  have space : nonEmpty? left.releaseNamespace = nonEmpty? right.releaseNamespace :=
    alike.settings .releaseNamespace
  have place : (left.completed root name).chartDirectory =
      (right.completed root name).chartDirectory := by
    simp only [Config.chartDirectory, Config.completed, chartName, chartHome]
  have environment : (left.completed root name).helmEnvironment =
      (right.completed root name).helmEnvironment := by
    simp only [Config.helmEnvironment, Config.completed, helmHome]
  have program : (left.completed root name).helmBin = (right.completed root name).helmBin := by
    simp only [Config.completed, helmBin]
  exact {
    chartDirectory := place
    helmEnvironment := environment
    helmBin := program
    versionCommand := by
      simp only [Helm.versionCommand, Helm.command, environment, program]
    pullArgs := by
      simp only [Helm.pullArgs, Helm.flag, Helm.reference, Config.completed, chartName, chartHome,
        repoName, version, repoUrl]
    templateArgs := by
      simp only [Helm.templateArgs, place]
      simp only [Helm.flag, Config.completed, release, space, values, chartHome, alike.extraArgs] }

theorem resolve_nameless {host : Host} {world : World} {document : Value} {config : Config}
    (accepted : ofDocument document = .ok config) (nameless : nonEmpty? config.chartName = none) :
    (resolve host (.document document)).run world = (.error .noChartName, world) := by
  refine resolve_error ?_
  simp only [readNamed, read, readDocument, accepted, mapError_ok, bind, Except.bind, nameless]

end Config

namespace Helm

open Config Entries

inductive Flagged (name : String) : List Text → Prop
  | nothing : Flagged name []
  | given {value : Text} : value ≠ [] → Flagged name [Text.ofString name, value]

theorem flagged_flag (name : String) (value : Option Text) : Flagged name (flag name value) := by
  unfold flag
  split
  next value given => exact .given (nonEmpty?_eq_some.mp given).2
  next => exact .nothing

/-- What a chart is fetched with: no flag for its version or its repository stands before an empty
value. -/
def FetchFlagged (config : Config) : Prop :=
  ∃ version repository, Flagged "--version" version ∧ Flagged "--repo" repository ∧
    pullArgs config = [some (Text.ofString "pull"), some (Text.ofString "--untar"),
      some (Text.ofString "--untardir"), config.chartHome] ++ (version ++ repository).map some ++
        [reference config]

/-- What a chart is rendered with: apart from the additional arguments, no flag for its namespace or
its values stands before an empty value. -/
def RenderFlagged (config : Config) (args : List Text) : Prop :=
  ∃ directory space values, config.chartDirectory = .ok directory ∧
    Flagged "--namespace" space ∧ Flagged "--values" values ∧
    args = Text.ofString "template" :: (nonEmpty? config.releaseName).toList ++
      directory :: (space ++ values) ++ config.extraArgs.getD []

theorem fetchFlagged (config : Config) : FetchFlagged config := by
  refine ⟨_, _, flagged_flag _ config.chartVersion, flagged_flag _ config.chartRepoUrl, ?_⟩
  simp [pullArgs]

theorem renderFlagged {config : Config} {args : List Text}
    (formed : templateArgs config = .ok args) : RenderFlagged config args := by
  obtain ⟨directory, placed, made⟩ := bind_eq_ok.mp formed
  cases made
  refine ⟨directory, _, _, placed, flagged_flag _ config.releaseNamespace,
    flagged_flag _ config.values, ?_⟩
  simp

/-- In whichever way a document leaves its options open, it is read, and completed below the same
directory it makes helm be called in the same way; no flag ever stands before an empty value. In
whichever way a document leaves the name of the chart open, it is refused for that. -/
theorem options_leftOpen :
    (∀ (anchor other : Option Nat) (entries changed : Entries) (given : Config) (name : Text),
      ofDocument (.map anchor entries) = .ok given → given.chartName = some name → name ≠ [] →
      Reopens entries changed →
      ∃ read, ofDocument (.map other changed) = .ok read ∧
        ∀ root, ∃ left right, given.withDefaults root = .ok left ∧
          read.withDefaults root = .ok right ∧ left.ActsAs right) ∧
    (∀ config, FetchFlagged config ∧
      ∀ args, templateArgs config = .ok args → RenderFlagged config args) ∧
    ∀ (host : Host) (world : World) (anchor other : Option Nat) (entries changed : Entries)
      (given : Config),
      ofDocument (.map anchor entries) = .ok given → SameBeside ["chartName"] entries changed →
      changed.lookup "chartName" ∈ [none, some .null, some (.text [])] →
      (resolve host (.document (.map other changed))).run world = (.error .noChartName, world) := by
  refine ⟨?_, fun config => ⟨fetchFlagged config, fun _ => renderFlagged⟩, ?_⟩
  · intro anchor other entries changed given name accepted named some reopens
    obtain ⟨read, reads, alike⟩ := exists_alike accepted reopens
    exact ⟨read, reads, fun root => ⟨_, _, withDefaults_of_name named root,
      withDefaults_of_name (alike.named named some) root, alike.completed named some root⟩⟩
  · intro host world anchor other entries changed given accepted beside isOpen
    obtain ⟨read, reads, nameless⟩ := exists_nameless accepted beside isOpen
    exact resolve_nameless reads nameless

theorem options_leftOpen_of_values :
    let host : Host := { current := [], environment := [], temporaryNames := fun _ => "x" }
    let start : World := ⟨Files.empty.add ["tmp"] .directory 0o777, 0, [], []⟩
    let entries : Entries := [(.text "chartName", .text "nginx"), (.text "values", .text ""),
      (.text "chartRepoURL", .text ""), (.text "chartArgs", .list none []),
      (.text "helmBin", .text "")]
    let changed : Entries := [(.text "chartName", .text "nginx"), (.text "values", .null),
      (.text "helmBin", .text "")]
    let nameless : Entries := [(.text "chartName", .null), (.text "values", .null),
      (.text "helmBin", .text "")]
    ∃ given read, ofDocument (.map none entries) = .ok given ∧
      ofDocument (.map none changed) = .ok read ∧ given ≠ read ∧
      (∀ root, ∃ left right, given.withDefaults root = .ok left ∧
        read.withDefaults root = .ok right ∧ left.ActsAs right) ∧
      FetchFlagged given ∧
      (resolve host (.document (.map none nameless))).run start = (.error .noChartName, start) := by
  intro host start entries changed nameless
  let way : Text → Reopening := fun key =>
    if key = "values" then .nulled
    else if key = "chartRepoURL" ∨ key = "chartArgs" then .removed else .kept
  have reopens : Reopens entries (entries.reopened way) := by
    refine reopens_reopened fun key => ?_
    by_cases values : key = "values"
    · exact values ▸ Or.inr ⟨⟨"values", by decide, rfl⟩, _, rfl, .text⟩
    · by_cases url : key = "chartRepoURL"
      · exact url ▸ Or.inr ⟨⟨"chartRepoURL", by decide, rfl⟩, _, rfl, .text⟩
      · by_cases words : key = "chartArgs"
        · exact words ▸ Or.inr ⟨⟨"chartArgs", by decide, rfl⟩, _, rfl, .list⟩
        · exact Or.inl (by simp only [way, values, url, words, if_false, or_self])
  obtain ⟨given, accepted, named, differs⟩ : ∃ given, ofDocument (.map none entries) = .ok given ∧
      given.chartName = some "nginx" ∧ given.values = some "" := ⟨_, rfl, rfl, rfl⟩
  obtain ⟨read, reads, acts⟩ := options_leftOpen.1 none none entries (entries.reopened way) given
    "nginx" accepted named (by decide) reopens
  obtain ⟨other, same, absent⟩ : ∃ other, ofDocument (.map none changed) = .ok other ∧
      other.values = none := ⟨_, rfl, rfl⟩
  cases Except.ok.inj (reads.symm.trans same)
  have beside : SameBeside ["chartName"] changed nameless := by
    refine ⟨fun key apart => ?_, fun _ => Or.inl⟩
    have notName : ¬ (Value.text "chartName").text? = some key :=
      fun named => apart "chartName" List.mem_cons_self (Option.some.inj named).symm
    simp only [changed, nameless, lookup_cons, if_neg notName]
  refine ⟨given, read, accepted, reads, ?_, acts, (options_leftOpen.2.1 given).1, ?_⟩
  · rintro rfl
    cases differs.symm.trans absent
  · exact options_leftOpen.2.2 host start none none changed nameless read same beside
      (List.mem_cons_of_mem _ List.mem_cons_self)

end Helm

namespace Config

structure FetchesAlike (left right : Config) : Prop where
  chartHome : left.chartHome = right.chartHome
  chartVersion : nonEmpty? left.chartVersion = nonEmpty? right.chartVersion
  chartRepoUrl : nonEmpty? left.chartRepoUrl = nonEmpty? right.chartRepoUrl
  reference : ∃ reference, left.Refers reference ∧ right.Refers reference

structure RendersAlike (left right : Config) : Prop where
  releaseName : nonEmpty? left.releaseName = nonEmpty? right.releaseName
  chartDirectory : left.chartDirectory = right.chartDirectory
  releaseNamespace : nonEmpty? left.releaseNamespace = nonEmpty? right.releaseNamespace
  values : left.values = right.values
  extraArgs : left.extraArgs.getD [] = right.extraArgs.getD []

def HomeIsAbsolute (config : Config) : Prop :=
  ∀ home, nonEmpty? config.chartHome = some home → Path.IsAbsolute home

variable {given config : Config}

theorem completed_refers (given : Config) (root : Path) {name : Text}
    (named : given.chartName = some name) :
    ∃ reference, (given.completed root name).Refers reference := by
  cases address : nonEmpty? given.chartRepoUrl with
  | none => exact ⟨_, .below address named rfl⟩
  | some text => exact ⟨_, .alone address named⟩

theorem Refers.slash_mem {reference : Text} (refers : config.Refers reference)
    (nowhere : nonEmpty? config.chartRepoUrl = none) : Path.slash ∈ reference := by
  cases refers with
  | alone address => cases nowhere.symm.trans address
  | below => exact List.mem_append_left _ (List.mem_append_right _ List.mem_cons_self)

theorem isAbsolute_directory {root : Path} (rooted : root.origin = .root)
    (home : given.HomeIsAbsolute) (name : Text) :
    Path.IsAbsolute ((Path.ofText (given.homeBelow root)).child name).text := by
  rw [((Path.proper_ofText _).child name).isAbsolute_text]
  apply Path.origin_child_ne_relative
  rw [← Path.isAbsolute_iff, homeBelow]
  cases set : nonEmpty? given.chartHome with
  | some own => exact home own set
  | none =>
    obtain ⟨origin, names⟩ := root
    cases rooted
    rfl

theorem Filled.values (filled : config.Filled) :
    ∃ values, nonEmpty? config.values = some values ∧ config.values = some values := by
  obtain ⟨values, set, some⟩ := filled .values (by decide)
  exact ⟨values, nonEmpty?_eq_some.mpr ⟨set, some⟩, set⟩

end Config

namespace Helm

open Config

theorem flag_append_inj {name : String} (left right : Option Text) {rest other : List Text}
    (unlike : nonEmpty? left = none → rest.head? ≠ some (Text.ofString name))
    (unalike : nonEmpty? right = none → other.head? ≠ some (Text.ofString name)) :
    flag name left ++ rest = flag name right ++ other ↔
      nonEmpty? left = nonEmpty? right ∧ rest = other := by
  unfold flag
  cases first : nonEmpty? left with
  | none =>
    cases second : nonEmpty? right with
    | none => simp
    | some value =>
      refine ⟨fun same => absurd ?_ (unlike first), fun same => nomatch same.1⟩
      exact congrArg List.head? same
  | some value =>
    cases second : nonEmpty? right with
    | none =>
      refine ⟨fun same => absurd ?_ (unalike second), fun same => nomatch same.1⟩
      exact (congrArg List.head? same).symm
    | some text => simp

theorem toList_append_inj {left right : Option Text} {place goal : Text} {rest other : List Text}
    (unlike : rest.head? ≠ some goal) (unalike : other.head? ≠ some place) :
    left.toList ++ place :: rest = right.toList ++ goal :: other ↔
      left = right ∧ place = goal ∧ rest = other := by
  cases left with
  | none =>
    cases right with
    | none => simp
    | some text =>
      refine ⟨fun same => absurd ?_ unlike, fun same => nomatch same.1⟩
      have behind := (List.cons.inj same).2
      rw [behind]
      rfl
  | some text =>
    cases right with
    | none =>
      refine ⟨fun same => absurd ?_ unalike, fun same => nomatch same.1⟩
      have behind := (List.cons.inj same).2
      rw [← behind]
      rfl
    | some own => simp

theorem pullArgs_eq {config : Config} {reference : Text} (refers : config.Refers reference) :
    pullArgs config = [some (Text.ofString "pull"), some (Text.ofString "--untar"),
      some (Text.ofString "--untardir"), config.chartHome] ++
        (flag "--version" config.chartVersion ++
          (flag "--repo" config.chartRepoUrl ++ [reference])).map some := by
  simp [pullArgs, refers.reference]

theorem head?_ne_of_refers {config : Config} {reference : Text} {name : String}
    (refers : config.Refers reference) (nowhere : nonEmpty? config.chartRepoUrl = none)
    (unslashed : Path.slash ∉ Text.ofString name) :
    [reference].head? ≠ some (Text.ofString name) := by
  intro same
  cases Option.some.inj same
  exact unslashed (refers.slash_mem nowhere)

theorem flag_head? (name : String) (value : Option Text) (rest : List Text) :
    (flag name value ++ rest).head? =
      if nonEmpty? value = none then rest.head? else some (Text.ofString name) := by
  unfold flag
  cases nonEmpty? value <;> rfl

theorem pullArgs_iff {left right : Config} {first second : Text} (refers : left.Refers first)
    (refersTo : right.Refers second) :
    pullArgs left = pullArgs right ↔ left.FetchesAlike right := by
  have repositories : flag "--repo" left.chartRepoUrl ++ [first] =
      flag "--repo" right.chartRepoUrl ++ [second] ↔
        nonEmpty? left.chartRepoUrl = nonEmpty? right.chartRepoUrl ∧ [first] = [second] :=
    flag_append_inj _ _ (fun nowhere => head?_ne_of_refers refers nowhere (by decide))
      fun nowhere => head?_ne_of_refers refersTo nowhere (by decide)
  have unlike : ∀ {config : Config} {reference : Text}, config.Refers reference →
      (flag "--repo" config.chartRepoUrl ++ [reference]).head? ≠
        some (Text.ofString "--version") := by
    intro config reference refers
    rw [flag_head?]
    split
    next nowhere => exact head?_ne_of_refers refers nowhere (by decide)
    next => decide
  have versions := flag_append_inj left.chartVersion right.chartVersion
    (fun _ => unlike refers) fun _ => unlike refersTo
  rw [pullArgs_eq refers, pullArgs_eq refersTo]
  simp only [List.cons_append, List.nil_append, List.cons.injEq, true_and,
    List.map_inj_right (fun _ _ => Option.some.inj), versions, repositories, and_true]
  constructor
  · rintro ⟨home, version, repository, same⟩
    exact ⟨home, version, repository, first, refers, same ▸ refersTo⟩
  · rintro ⟨home, version, repository, reference, one, other⟩
    have leads := Option.some.inj (refers.reference.symm.trans one.reference)
    have leadsTo := Option.some.inj (refersTo.reference.symm.trans other.reference)
    exact ⟨home, version, repository, by rw [leads, leadsTo]⟩

theorem templateArgs_eq {config : Config} {place : Text}
    (placed : config.chartDirectory = .ok place) :
    templateArgs config = .ok (Text.ofString "template" ::
      ((nonEmpty? config.releaseName).toList ++ place ::
        (flag "--namespace" config.releaseNamespace ++
          (flag "--values" config.values ++ config.extraArgs.getD [])))) := by
  simp [templateArgs, placed, bind, Except.bind]

theorem head?_ne_of_isAbsolute {config : Config} {values place : Text}
    (given : nonEmpty? config.values = some values) (absolute : Path.IsAbsolute place) :
    (flag "--namespace" config.releaseNamespace ++
      (flag "--values" config.values ++ config.extraArgs.getD [])).head? ≠ some place := by
  have apart : ∀ name : String, ¬ Path.IsAbsolute (Text.ofString name) →
      some (Text.ofString name) ≠ some place := by
    rintro name relative same
    cases Option.some.inj same
    exact relative absolute
  rw [flag_head?, flag_head?, given]
  split
  next => exact apart _ (by decide)
  next => exact apart _ (by decide)

theorem templateArgs_iff {left right : Config} {first second : Text}
    (placed : left.chartDirectory = .ok first) (placedAt : right.chartDirectory = .ok second)
    (absolute : Path.IsAbsolute first) (isAbsolute : Path.IsAbsolute second)
    (filled : left.Filled) (isFilled : right.Filled) :
    templateArgs left = templateArgs right ↔ left.RendersAlike right := by
  obtain ⟨values, given, set⟩ := filled.values
  obtain ⟨others, givenTo, setTo⟩ := isFilled.values
  have extras : flag "--values" left.values ++ left.extraArgs.getD [] =
      flag "--values" right.values ++ right.extraArgs.getD [] ↔
        nonEmpty? left.values = nonEmpty? right.values ∧
          left.extraArgs.getD [] = right.extraArgs.getD [] :=
    flag_append_inj _ _ (by simp [given]) (by simp [givenTo])
  have unlike : ∀ {config : Config} {values : Text}, nonEmpty? config.values = some values →
      (flag "--values" config.values ++ config.extraArgs.getD []).head? ≠
        some (Text.ofString "--namespace") := by
    intro config values given
    rw [flag_head?, if_neg (by simp [given])]
    decide
  have spaces := flag_append_inj left.releaseNamespace right.releaseNamespace
    (fun _ => unlike given) fun _ => unlike givenTo
  rw [templateArgs_eq placed, templateArgs_eq placedAt]
  simp only [Except.ok.injEq, List.cons.injEq, true_and,
    toList_append_inj (head?_ne_of_isAbsolute given isAbsolute)
      (head?_ne_of_isAbsolute givenTo absolute), spaces, extras]
  constructor
  · rintro ⟨release, place, space, same, words⟩
    refine ⟨release, ?_, space, ?_, words⟩
    · rw [placed, placedAt, place]
    · rwa [given, givenTo, ← set, ← setTo] at same
  · rintro ⟨release, place, space, same, words⟩
    refine ⟨release, ?_, space, ?_, words⟩
    · rw [placed, placedAt] at place
      exact Except.ok.inj place
    · rw [same]

theorem exists_args {given config : Config} (resolves : given.ResolvesTo config) :
    ∃ place args reference, config.chartDirectory = .ok place ∧ templateArgs config = .ok args ∧
      config.Refers reference ∧ config.Filled ∧
      (given.HomeIsAbsolute → Path.IsAbsolute place) := by
  obtain ⟨root, name, rooted, named, rfl⟩ := resolves.completed
  obtain ⟨reference, refers⟩ := completed_refers given root named
  have placed := completed_chartDirectory named root
  exact ⟨_, _, reference, placed, templateArgs_eq placed, refers,
    given.completed_filled root name, fun home => isAbsolute_directory rooted home name⟩

/-- The words by which helm is told to fetch or to render a chart say which options they come from.
Two configurations that something was resolved to make the same words for fetching if and only if
they agree on the home of charts, on the version, on the address of the repository and on the
reference of the chart; and, if their charts lie at absolute paths, the same words for rendering if
and only if they agree on the release, on its namespace, on the directory of the chart, on the
values and on the additional arguments. A chart lies at an absolute path unless its home was given
as a relative one. -/
theorem args_determine {given other left right : Config} (resolves : given.ResolvesTo left)
    (resolvesTo : other.ResolvesTo right) :
    (pullArgs left = pullArgs right ↔ left.FetchesAlike right) ∧
    ∃ first second args words,
      left.chartDirectory = .ok first ∧ templateArgs left = .ok args ∧
      right.chartDirectory = .ok second ∧ templateArgs right = .ok words ∧
      (given.HomeIsAbsolute → Path.IsAbsolute first) ∧
      (other.HomeIsAbsolute → Path.IsAbsolute second) ∧
      (Path.IsAbsolute first → Path.IsAbsolute second →
        (args = words ↔ left.RendersAlike right)) := by
  obtain ⟨first, args, reference, placed, formed, refers, filled, absolute⟩ :=
    exists_args resolves
  obtain ⟨second, words, own, placedAt, formedTo, refersTo, isFilled, isAbsolute⟩ :=
    exists_args resolvesTo
  refine ⟨pullArgs_iff refers refersTo, first, second, args, words, placed, formed, placedAt,
    formedTo, absolute, isAbsolute, fun rooted isRooted => ?_⟩
  rw [← templateArgs_iff placed placedAt rooted isRooted filled isFilled, formed, formedTo,
    Except.ok.injEq]

theorem args_determine_of_address :
    let host : Host := { current := [], environment := [], temporaryNames := fun _ => "x" }
    let start : World := ⟨Files.empty.add ["tmp"] .directory 0o777, 0, [], []⟩
    let one : RawConfig := .document (.map none [(.text "chartName", .text "nginx"),
      (.text "chartRepoUrl", .text "--version"), (.text "chartRepoName", .text "bitnami"),
      (.text "releaseName", .text "/tmp/helm-inflator-x/chart/nginx")])
    let two : RawConfig := .document (.map none [(.text "chartName", .text "nginx"),
      (.text "chartRepoUrl", .text "--version"), (.text "chartVersion", .text "")])
    ∃ given other left right directory after behind,
      Config.readNamed one = .ok given ∧ Config.readNamed two = .ok other ∧
      (Config.resolve host one).run start = (.ok (left, directory), after) ∧
      (Config.resolve host two).run start = (.ok (right, directory), behind) ∧
      given.ResolvesTo left ∧ other.ResolvesTo right ∧
      left.chartRepoName ≠ right.chartRepoName ∧ pullArgs left = pullArgs right ∧
      (pullArgs left = pullArgs right ↔ left.FetchesAlike right) ∧
      ∃ first second args words,
        left.chartDirectory = .ok first ∧ templateArgs left = .ok args ∧
        right.chartDirectory = .ok second ∧ templateArgs right = .ok words ∧
        (given.HomeIsAbsolute → Path.IsAbsolute first) ∧
        (other.HomeIsAbsolute → Path.IsAbsolute second) ∧
        (Path.IsAbsolute first → Path.IsAbsolute second →
          (args = words ↔ left.RendersAlike right)) := by
  intro host start one two
  obtain ⟨given, other, left, right, directory, after, behind, read, reads, resolved, resolves,
      differ, same⟩ : ∃ given other left right directory after behind,
      Config.readNamed one = .ok given ∧ Config.readNamed two = .ok other ∧
      (Config.resolve host one).run start = (.ok (left, directory), after) ∧
      (Config.resolve host two).run start = (.ok (right, directory), behind) ∧
      left.chartRepoName ≠ right.chartRepoName ∧ pullArgs left = pullArgs right :=
    ⟨_, _, _, _, _, _, _, rfl, rfl, rfl, rfl, by decide, rfl⟩
  have first : given.ResolvesTo left := ⟨host, one, start, directory, after, read, resolved⟩
  have second : other.ResolvesTo right := ⟨host, two, start, directory, behind, reads, resolves⟩
  exact ⟨given, other, left, right, directory, after, behind, read, reads, resolved, resolves,
    first, second, differ, same, args_determine first second⟩

end Helm

end ChartManifests
