import ChartManifests.Proofs.Path
import ChartManifests.Proofs.Resolve
/-!
Where the chart of a configuration lies. Without a home of charts it lies inside of the working
directory if its name is relative and leads no further up than down. Another name leads out of the
directory, unless it spells out what the directory is called. The file of values is beside it.
-/

namespace ChartManifests

/-- The names that a host makes up consist of letters, digits and underscores. -/
def Host.NamesPlainly (host : Host) : Prop :=
  ∀ number, ∀ character ∈ (host.temporaryNames number).toList,
    character.isAlphanum = true ∨ character = '_'

theorem Host.namesPlainly_of_single {host : Host} {name : String}
    (single : ∀ number, host.temporaryNames number = name)
    (plain : name.toList.all (fun character => character.isAlphanum || character = '_') = true) :
    host.NamesPlainly := by
  intro number character present
  rw [single] at present
  simpa using List.all_eq_true.mp plain character present

namespace Files

variable {name : String}

theorem fits_of_isOwnName (own : isOwnName name = true) : Path.Fits (Text.ofString name) := by
  simp only [isOwnName, Bool.and_eq_true, decide_eq_true_eq, Bool.not_eq_true'] at own
  obtain ⟨⟨⟨⟨⟨filled, notDot⟩, -⟩, -⟩, unslashed⟩, -⟩ := own
  constructor
  · simp only [Path.isName, ne_eq, Bool.and_eq_true, decide_eq_true_eq]
    exact ⟨fun none => filled (Text.ofString_injective none),
      fun dot => notDot (Text.ofString_injective dot)⟩
  · intro slashed
    obtain ⟨character, present, same⟩ := List.mem_map.mp slashed
    cases CodePoint.ofChar_injective same
    simp [separator, present] at unslashed

theorem ofString_ne_up_of_isOwnName (own : isOwnName name = true) :
    Text.ofString name ≠ Path.up := by
  simp only [isOwnName, Bool.and_eq_true, decide_eq_true_eq] at own
  exact fun up => own.1.1.1.2 (Text.ofString_injective up)

end Files

theorem Host.isOwnName_temporary (host : Host) :
    ∀ name ∈ host.temporary, Files.isOwnName name = true :=
  List.all_eq_true.mp host.plain

namespace WorkingDirectory

variable {host : Host}

theorem path_numbered (host : Host) (number : Nat) : (numbered host number).path =
    ⟨.root, host.temporary.map Text.ofString ++ [Text.ofString (name host number)]⟩ := by
  rw [path, numbered, List.map_append, List.map_singleton]

theorem name_toList (host : Host) (number : Nat) : (name host number).toList =
    namePrefix.toList ++ (host.temporaryNames number).toList := by
  simp [name]

theorem name_plain (plain : host.NamesPlainly) (number : Nat) :
    ∀ character ∈ (name host number).toList,
      character.isAlphanum = true ∨ character = '_' ∨ character = '-' := by
  intro character present
  rw [name_toList, List.mem_append] at present
  rcases present with own | made
  · have first : namePrefix.toList.all
        (fun character => character.isAlphanum || character = '_' || character = '-') := rfl
    simpa [or_assoc] using List.all_eq_true.mp first character own
  · rcases plain number character made with letter | underscore
    · exact Or.inl letter
    · exact Or.inr (Or.inl underscore)

theorem ofString_name_ne (host : Host) (number : Nat) {other : Text} (short : other.length ≤ 4) :
    Text.ofString (name host number) ≠ other := by
  rintro rfl
  simp only [Text.ofString, Text.ofChars, List.length_map, name_toList, List.length_append] at short
  have long : namePrefix.toList.length = 14 := by decide
  omega

theorem fits_name (plain : host.NamesPlainly) (number : Nat) :
    Path.Fits (Text.ofString (name host number)) := by
  constructor
  · simp only [Path.isName, ne_eq, Bool.and_eq_true, decide_eq_true_eq]
    exact ⟨ofString_name_ne host number (by decide), ofString_name_ne host number (by decide)⟩
  · intro slashed
    obtain ⟨character, present, same⟩ := List.mem_map.mp slashed
    cases CodePoint.ofChar_injective same
    have proper := name_plain plain number '/' present
    revert proper
    decide

theorem proper_path (plain : host.NamesPlainly) (number : Nat) :
    (numbered host number).path.Proper := by
  rw [path_numbered]
  intro part present
  rcases List.mem_append.mp present with outer | own
  · obtain ⟨name, among, rfl⟩ := List.mem_map.mp outer
    exact Files.fits_of_isOwnName (host.isOwnName_temporary name among)
  · rw [List.mem_singleton.mp own]
    exact fits_name plain number

theorem up_not_mem_path (host : Host) (number : Nat) :
    Path.up ∉ (numbered host number).path.names := by
  rw [path_numbered]
  intro present
  rcases List.mem_append.mp present with outer | own
  · obtain ⟨name, among, same⟩ := List.mem_map.mp outer
    exact Files.ofString_ne_up_of_isOwnName (host.isOwnName_temporary name among) same
  · exact (ofString_name_ne host number (by decide)).symm (List.mem_singleton.mp own)

end WorkingDirectory

namespace Path

/-- A chart's name leads on from the home of charts, and not above the directory around it. -/
def StaysInside (name : Text) : Prop :=
  (ofText name).origin = .relative ∧ 0 < (level? 1 (ofText name).names).getD 0

instance (name : Text) : Decidable (StaysInside name) :=
  inferInstanceAs (Decidable (_ ∧ _))

variable {root : Path} {name : Text}

theorem resolved_home (downward : up ∉ root.names) :
    (root.child chartHomeName).resolved = root.names ++ [Text.ofString chartHomeName] := by
  rw [resolved_child (by decide), resolved_of_no_up downward]
  exact foldl_step_of_no_up (by decide) _

theorem resolved_chart (downward : up ∉ root.names) (stays : StaysInside name) :
    ∃ first rest, ((root.child chartHomeName).child name).resolved =
      root.names ++ first :: rest := by
  obtain ⟨relative, inside⟩ := stays
  rw [resolved_child relative, resolved_home downward]
  cases level : level? 1 (ofText name).names with
  | none => simp [level] at inside
  | some depth =>
    obtain ⟨rest, led, deep⟩ := foldl_step_of_level root.names
      [Text.ofString chartHomeName] level
    cases rest with
    | nil => simp [level, ← deep] at inside
    | cons first rest => exact ⟨first, rest, led⟩

theorem origin_chart (relative : (ofText name).origin = .relative) :
    ((root.child chartHomeName).child name).origin = root.origin := by
  rw [origin_child relative, origin_child (by decide)]

theorem liesInside_of_stays (downward : up ∉ root.names) (stays : StaysInside name) :
    ((root.child chartHomeName).child name).LiesInside root := by
  obtain ⟨first, rest, led⟩ := resolved_chart downward stays
  refine ⟨⟨origin_chart stays.1, ?_⟩, ?_⟩
  · rw [led, resolved_of_no_up downward]
    exact List.prefix_append _ _
  · rw [led, resolved_of_no_up downward]
    simp

theorem values_liesInside_of_stays (downward : up ∉ root.names) (stays : StaysInside name) :
    (((root.child chartHomeName).child name).child valuesFile).LiesInside root := by
  obtain ⟨first, rest, led⟩ := resolved_chart downward stays
  have values : (((root.child chartHomeName).child name).child valuesFile).resolved =
      root.names ++ first :: rest ++ [Text.ofString valuesFile] := by
    rw [resolved_child (by decide), led]
    exact foldl_step_of_no_up (by decide) _
  refine ⟨⟨?_, ?_⟩, ?_⟩
  · rw [origin_child (by decide), origin_chart stays.1]
  · rw [values, resolved_of_no_up downward, List.append_assoc]
    exact List.prefix_append _ _
  · rw [values, resolved_of_no_up downward]
    simp

theorem stays_of_liesInside {outer : List Text} {own : Text} (names : root.names = outer ++ [own])
    (downward : up ∉ root.names) (unspelled : own ∉ (ofText name).names)
    (inside : ((root.child chartHomeName).child name).LiesInside root) : StaysInside name := by
  obtain ⟨⟨-, contained⟩, differs⟩ := inside
  rw [resolved_of_no_up downward] at contained differs
  -- The last name of the directory stands behind all outer ones.
  have spelled : ((root.child chartHomeName).child name).resolved[outer.length]? = some own := by
    obtain ⟨rest, led⟩ := contained
    rw [← led, names]
    simp
  by_cases relative : (ofText name).origin = .relative
  · refine ⟨relative, ?_⟩
    rw [resolved_child relative, resolved_home downward] at spelled differs
    cases level : level? 1 (ofText name).names with
    | none =>
      obtain ⟨rest, within, led⟩ := foldl_step_of_none root.names
        [Text.ofString chartHomeName] level
      rw [led, names, List.dropLast_concat] at spelled
      rcases mem_of_getElem?_foldl_step spelled with before | later
      · simp at before
      · exact absurd (within own later) unspelled
    | some depth =>
      obtain ⟨rest, led, deep⟩ := foldl_step_of_level root.names
        [Text.ofString chartHomeName] level
      cases rest with
      | nil => exact absurd (by rw [led, List.append_nil]) differs
      | cons first rest => simp [← deep]
  · rw [child_rooted relative] at spelled
    rcases mem_of_getElem?_foldl_step spelled with nowhere | own
    · cases nowhere
    · exact absurd own unspelled

end Path

namespace Config

variable {host : Host} {raw : RawConfig} {config : Config} {directory : WorkingDirectory}

theorem completed_paths {given : Config} {name : Text} {root : Path} (proper : root.Proper)
    (named : given.chartName = some name) (unset : nonEmpty? given.chartHome = none) :
    (given.completed root name).chartHome = some (root.child chartHomeName).text ∧
    (given.completed root name).chartDirectory =
      .ok ((root.child chartHomeName).child name).text ∧
    (nonEmpty? given.values = none → (given.completed root name).values =
      some (((root.child chartHomeName).child name).child valuesFile).text) := by
  have readBack := Path.ofText_text (proper.child chartHomeName)
  have home := given.homeBelow_of_unset unset root
  refine ⟨congrArg some home, ?_, fun unsaid => ?_⟩
  · rw [completed_chartDirectory named, home, readBack]
  · rw [completed_values unsaid, home, readBack]

/-- The chart of a configuration without a home of charts lies inside of the working directory if
its name stays inside, and so does the file of values that belongs to it; it does not if the name
leads out and does not spell out what the directory is called. -/
theorem chart_liesInside {given : Config} {start after : World} (plain : host.NamesPlainly)
    (read : readNamed raw = .ok given) (unset : nonEmpty? given.chartHome = none)
    (resolved : (resolve host raw).run start = (.ok (config, directory), after)) :
    ∃ name place values, given.chartName = some name ∧ config.chartDirectory = .ok place ∧
      config.values = some values ∧
      (Path.StaysInside name → (Path.ofText place).LiesInside directory.path ∧
        (nonEmpty? given.values = none → (Path.ofText values).LiesInside directory.path)) ∧
      (Text.ofString (WorkingDirectory.name host start.directories) ∉ (Path.ofText name).names →
        ((Path.ofText place).LiesInside directory.path ↔ Path.StaysInside name)) := by
  obtain ⟨name, named, -⟩ := readNamed_name read
  obtain ⟨rfl, rfl, -⟩ := resolve_given read named resolved
  have proper := WorkingDirectory.proper_path plain start.directories
  have downward := WorkingDirectory.up_not_mem_path host start.directories
  generalize rooted : (WorkingDirectory.numbered host start.directories).path = root at *
  obtain ⟨-, placed, belongs⟩ := completed_paths proper named unset
  have home := proper.child chartHomeName
  have chart := Path.ofText_text (home.child name)
  refine ⟨name, _, _, named, placed, rfl, ?_, ?_⟩
  · intro stays
    refine ⟨?_, fun unsaid => ?_⟩
    · rw [chart]
      exact Path.liesInside_of_stays downward stays
    · have values := Option.some.inj (belongs unsaid)
      rw [values, Path.ofText_text ((home.child name).child valuesFile)]
      exact Path.values_liesInside_of_stays downward stays
  · intro unspelled
    rw [chart]
    refine ⟨?_, Path.liesInside_of_stays downward⟩
    have names : root.names = host.temporary.map Text.ofString ++
        [Text.ofString (WorkingDirectory.name host start.directories)] := by
      rw [← rooted, WorkingDirectory.path_numbered]
    exact Path.stays_of_liesInside names downward unspelled

theorem chart_liesInside_of_detour :
    let host : Host := { current := [], environment := [], temporaryNames := fun _ => "x" }
    let world : World := ⟨Files.empty.add ["tmp"] .directory 0o777, 0, [], []⟩
    let raw : RawConfig := .document (.map none [(.text "chartName", .text "../charts/./nginx")])
    ∃ given config directory after, host.NamesPlainly ∧ readNamed raw = .ok given ∧
      nonEmpty? given.chartHome = none ∧
      (resolve host raw).run world = (.ok (config, directory), after) ∧
      given.chartName = some "../charts/./nginx" ∧ Path.StaysInside "../charts/./nginx" ∧
      ∃ name place values, given.chartName = some name ∧ config.chartDirectory = .ok place ∧
        config.values = some values ∧
        (Path.StaysInside name → (Path.ofText place).LiesInside directory.path ∧
          (nonEmpty? given.values = none → (Path.ofText values).LiesInside directory.path)) ∧
        (Text.ofString (WorkingDirectory.name host world.directories) ∉ (Path.ofText name).names →
          ((Path.ofText place).LiesInside directory.path ↔ Path.StaysInside name)) := by
  intro host world raw
  have plain : host.NamesPlainly := Host.namesPlainly_of_single (fun _ => rfl) rfl
  obtain ⟨given, read, unset, named⟩ : ∃ given, readNamed raw = .ok given ∧
      nonEmpty? given.chartHome = none ∧ given.chartName = some "../charts/./nginx" :=
    ⟨_, rfl, rfl, rfl⟩
  obtain ⟨⟨config, directory⟩, after, resolved⟩ :
      ∃ value after, (resolve host raw).run world = (.ok value, after) := ⟨_, _, rfl⟩
  exact ⟨given, config, directory, after, plain, read, unset, resolved, named, by decide,
    chart_liesInside plain read unset resolved⟩

/-- A name with a root of its own leads elsewhere, also for the file of values. -/
theorem chart_not_liesInside :
    let host : Host := { current := [], environment := [], temporaryNames := fun _ => "x" }
    let world : World := ⟨Files.empty.add ["tmp"] .directory 0o777, 0, [], []⟩
    let raw : RawConfig := .document (.map none [(.text "chartName", .text "/charts/nginx")])
    ∃ config directory after, (resolve host raw).run world = (.ok (config, directory), after) ∧
      config.chartDirectory = .ok "/charts/nginx" ∧
      config.values = some "/charts/nginx/values.yaml" ∧
      ¬ (Path.ofText "/charts/nginx").LiesInside directory.path ∧
      ¬ (Path.ofText "/charts/nginx/values.yaml").LiesInside directory.path := by
  intro host world raw
  exact ⟨_, _, _, rfl, rfl, rfl, by decide, by decide⟩

theorem texts_belowHome {root : Path} {name : Text}
    (spelled : ∀ part ∈ Text.splitAt Path.slash name, Path.isName part) :
    ((root.child chartHomeName).child name).text =
        (root.child chartHomeName).text ++ "/" ++ name ∧
      (((root.child chartHomeName).child name).child valuesFile).text =
        ((root.child chartHomeName).child name).text ++ "/values.yaml" := by
  have homeNamed : (root.child chartHomeName).names ≠ [] := by
    rw [Path.child_relative (by decide)]
    exact List.append_ne_nil_of_right_ne_nil _ (by decide)
  have chartNamed : ((root.child chartHomeName).child name).names ≠ [] := by
    rw [Path.child_relative (by rw [Path.ofText_of_names spelled])]
    exact List.append_ne_nil_of_left_ne_nil homeNamed _
  constructor
  · rw [Path.text_child_of_names homeNamed spelled, List.append_assoc]
    rfl
  · exact Path.text_child_of_names chartNamed (by decide)

/-- The file of values that a configuration leaves open is the one in the directory of its chart,
although each of the two is found from the home of charts on its own, and both are written as paths
are. If the home of charts is left open as well and the name of the chart consists of names only,
then the name is written behind the home, and that of the file behind the directory. -/
theorem values_besideChart {given : Config} {start after : World}
    (read : readNamed raw = .ok given) (unset : nonEmpty? given.values = none)
    (resolved : (resolve host raw).run start = (.ok (config, directory), after)) :
    ∃ home name place values, config.chartHome = some home ∧ given.chartName = some name ∧
      config.chartDirectory = .ok place ∧ config.values = some values ∧
      values = ((Path.ofText place).child valuesFile).text ∧
      (Path.ofText place).text = place ∧ (Path.ofText values).text = values ∧
      (host.NamesPlainly → nonEmpty? given.chartHome = none →
        (∀ part ∈ Text.splitAt Path.slash name, Path.isName part) →
          place = home ++ "/" ++ name ∧ values = place ++ "/values.yaml") := by
  obtain ⟨name, named, -⟩ := readNamed_name read
  obtain ⟨rfl, rfl, -⟩ := resolve_given read named resolved
  generalize rooted : (WorkingDirectory.numbered host start.directories).path = root
  have placed := completed_chartDirectory named root
  have found := completed_values unset root name
  have proper := (Path.proper_ofText (given.homeBelow root)).child name
  refine ⟨given.homeBelow root, name, _, _, rfl, named, placed, found, ?_, ?_, ?_, ?_⟩
  · rw [Path.ofText_text proper]
  · rw [Path.ofText_text proper]
  · rw [Path.ofText_text (proper.child valuesFile)]
  · intro plain unsaid spelled
    have readBack := Path.ofText_text
      ((WorkingDirectory.proper_path plain start.directories).child chartHomeName)
    rw [rooted] at readBack
    rw [given.homeBelow_of_unset unsaid, readBack]
    exact texts_belowHome spelled

theorem values_besideChart_of_detour :
    let host : Host := { current := [], environment := [], temporaryNames := fun _ => "x" }
    let world : World := ⟨Files.empty.add ["tmp"] .directory 0o777, 0, [], []⟩
    let raw : RawConfig := .document (.map none [(.text "chartName", .text "base/../nginx"),
      (.text "values", .text "")])
    ∃ given config directory after, readNamed raw = .ok given ∧
      nonEmpty? given.values = none ∧ nonEmpty? given.chartHome = none ∧ host.NamesPlainly ∧
      (∀ part ∈ Text.splitAt Path.slash "base/../nginx", Path.isName part) ∧
      (resolve host raw).run world = (.ok (config, directory), after) ∧
      ∃ home name place values, config.chartHome = some home ∧ given.chartName = some name ∧
        config.chartDirectory = .ok place ∧ config.values = some values ∧
        values = ((Path.ofText place).child valuesFile).text ∧
        (Path.ofText place).text = place ∧ (Path.ofText values).text = values ∧
        (host.NamesPlainly → nonEmpty? given.chartHome = none →
          (∀ part ∈ Text.splitAt Path.slash name, Path.isName part) →
            place = home ++ "/" ++ name ∧ values = place ++ "/values.yaml") := by
  intro host world raw
  have plain : host.NamesPlainly := Host.namesPlainly_of_single (fun _ => rfl) rfl
  obtain ⟨given, read, unset, unsaid⟩ : ∃ given, readNamed raw = .ok given ∧
      nonEmpty? given.values = none ∧ nonEmpty? given.chartHome = none := ⟨_, rfl, rfl, rfl⟩
  obtain ⟨⟨config, directory⟩, after, resolved⟩ :
      ∃ value after, (resolve host raw).run world = (.ok value, after) := ⟨_, _, rfl⟩
  exact ⟨given, config, directory, after, read, unset, unsaid, plain, by decide, resolved,
    values_besideChart read unset resolved⟩

end Config

end ChartManifests
