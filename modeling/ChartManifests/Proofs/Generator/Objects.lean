import ChartManifests.Proofs.Generator.Attribution
import ChartManifests.Proofs.Helm.Gate
import ChartManifests.Proofs.Yaml.Stream
/-!
Objects out of an output. All documents of the output that are not null are objects, in their order,
if the whole output can be loaded; otherwise there are none, and the failure is one of rendering or,
where a scalar names no value, whatever the scalar fails with.
-/

namespace ChartManifests

open Helm

def Value.isPresent : Value → Bool
  | .null => false
  | _ => true

theorem Value.isPresent_iff {value : Value} : value.isPresent = true ↔ value ≠ .null := by
  cases value <;> simp [isPresent]

theorem Value.isPresent_eq_false {value : Value} : value.isPresent = false ↔ value = .null := by
  cases value <;> simp [isPresent]

instance : DecidablePred fun value : Value => value ≠ .null :=
  fun _ => decidable_of_iff _ Value.isPresent_iff

def Value.truth? : Value → Option Bool
  | .boolean truth => some truth
  | _ => none

theorem Value.truth?_eq_some {value : Value} {truth : Bool} :
    value.truth? = some truth ↔ value = .boolean truth := by
  cases value <;> simp [truth?]

structure WholeOrNone (chart : Text) (values : List Value) (ending : Option Yaml.Fault)
    (result : Except Failure (List Value)) : Prop where
  whole : ending = none → result = .ok (values.filter (· ≠ .null))
  unreadable : ending = some .malformed → result = .error (.unreadableOutput (some chart)) ∧
    chart <:+: (Failure.unreadableOutput (some chart)).message
  unnamed : ∀ fault, ending = some fault → fault ≠ .malformed → result = .error (.scalar fault)

theorem readObjects_wholeOrNone {output : Text.Bytes} {values : List Value}
    {ending : Option Yaml.Fault} (chart : Text)
    (yields : Yaml.Yields (.bytes output) values ending) :
    WholeOrNone chart values ending (Generator.readObjects (some chart) output) := by
  have loaded := Yaml.loadAll_of_yields yields
  unfold Generator.readObjects
  rw [loaded]
  refine ⟨?_, ?_, ?_⟩
  · rintro rfl
    refine congrArg Except.ok (List.filter_congr fun value _ => ?_)
    cases value <;> rfl
  · rintro rfl
    refine ⟨rfl, ?_⟩
    simp only [Failure.message, formatted, Option.getD_some, List.append_assoc]
    exact ⟨_, _, List.append_assoc _ _ _⟩
  · rintro fault rfl foreign
    cases fault with
    | malformed => exact absurd rfl foreign
    | escape => rfl
    | scalar => rfl

variable {host : Host} {runner : Runner} {config : Config}

theorem Course.fails_reported {history : List Command} {files : Files} {issued : List Command}
    {result : Except Failure Text.Bytes} {place : Text}
    (course : Course host runner config history files issued result)
    (placed : config.chartDirectory = .ok place)
    (reports : ∀ history command files,
      FailsOnly (fun failure => failure.isReported = true) (runner history command files).result) :
    FailsOnly (fun failure => failure.isReported = true) result := by
  cases course with
  | unsupported refused =>
    refine FailsOnly.error ?_
    obtain raised | version := gate_fails refused
    · exact reports _ _ _ _ raised
    · exact version.2
  | homeless accepted nowhere => cases placed.symm.trans nowhere
  | unfetched accepted found absent raised => exact FailsOnly.error (reports _ _ _ _ raised)
  | fetched => exact reports _ _ _
  | present => exact reports _ _ _

/-- The objects of a generator that has just been configured are all of its output or none of it,
and what the generator fails with is handed on. If the runner fails with nothing but what is
reported, then so does everything here but a scalar that names no value. -/
theorem objects_wholeOrNone {raw : RawConfig} {start configured : World}
    {directory : WorkingDirectory}
    (resolved : (Config.resolve host raw).run start = (.ok (config, directory), configured)) :
    ∃ chart, config.chartName = some chart ∧ ∀ (runner : Runner) (world : World),
      let made := (Generator.ready config directory).generate host runner world
      let reply := (Generator.ready config directory).objects host runner world
      reply.generator = made.generator ∧ reply.world = made.world ∧
      (∀ failure, made.result = .error failure → reply.result = .error failure) ∧
      (∀ output, made.result = .ok output →
        (∃ values ending, Yaml.Yields (.bytes output) values ending) ∧
        ∀ values ending, Yaml.Yields (.bytes output) values ending →
          WholeOrNone chart values ending reply.result) ∧
      ((∀ history command files, FailsOnly (fun failure => failure.isReported = true)
          (runner history command files).result) →
        ∀ failure, reply.result = .error failure → failure.isReported = true ∨
          ∃ output values fault, made.result = .ok output ∧
            Yaml.Yields (.bytes output) values (some fault) ∧ fault ≠ .malformed ∧
            failure = .scalar fault) := by
  obtain ⟨complete, -, -⟩ := Config.resolve_cases resolved
  obtain ⟨place, placed⟩ := complete.chartDirectory
  obtain ⟨given, chart, -, named, rfl⟩ := complete
  refine ⟨chart, named, ?_⟩
  intro runner world made reply
  obtain ⟨issued, result, after, generated, course, -⟩ :=
    generate_ready host runner (given.completed directory.path chart) directory world
  have chartName : (given.completed directory.path chart).chartName = some chart := named
  have answered : reply = ⟨result.bind (Generator.readObjects (some chart)),
      .spent (given.completed directory.path chart), directory.remove after⟩ := by
    simp only [reply, Generator.objects, generated, Generator.config, chartName]
  simp only [made, generated, answered]
  refine ⟨trivial, trivial, ?_, ?_, ?_⟩
  · rintro failure rfl
    rfl
  · rintro output rfl
    exact ⟨Yaml.exists_yields _, fun values ending yields => readObjects_wholeOrNone chart yields⟩
  · intro reports failure failed
    cases result with
    | error raised =>
      cases failed
      exact Or.inl (course.fails_reported placed reports _ rfl)
    | ok output =>
      obtain ⟨values, ending, yields⟩ := Yaml.exists_yields (.bytes output)
      obtain ⟨whole, unreadable, unnamed⟩ := readObjects_wholeOrNone chart yields
      change Generator.readObjects (some chart) output = .error failure at failed
      cases ending with
      | none => cases failed.symm.trans (whole rfl)
      | some fault =>
        by_cases malformed : fault = .malformed
        · cases failed.symm.trans (unreadable (congrArg some malformed)).1
          exact Or.inl rfl
        · cases failed.symm.trans (unnamed fault rfl malformed)
          exact Or.inr ⟨output, values, fault, rfl, yields, malformed, rfl⟩

def Runner.rendering (version output : Text.Bytes) : Runner := fun _ command files =>
  ⟨.ok (if command.purpose = .render then output else version), files, []⟩

theorem generate_rendering {raw : RawConfig} {start configured : World}
    {directory : WorkingDirectory} {version : Text.Bytes} {number : String}
    (resolved : (Config.resolve host raw).run start = (.ok (config, directory), configured))
    (accepted : Version.supported (Text.Utf8.decodeLossy version) = .ok number)
    (output : Text.Bytes) (world : World) :
    ((Generator.ready config directory).generate host (Runner.rendering version output)
      world).result = .ok output := by
  obtain ⟨place, placed⟩ := (Config.resolve_cases resolved).1.chartDirectory
  obtain ⟨args, formed⟩ := templateArgs_ok placed
  have templateFormed := templateCommand_ok formed
  have passes : gate (Runner.rendering version output world.commands (versionCommand config)
      world.files) = .ok number := accepted
  obtain ⟨issued, result, after, generated, course, -⟩ :=
    generate_ready host (Runner.rendering version output) config directory world
  rw [generated]
  cases course with
  | unsupported refused => cases refused.symm.trans passes
  | homeless accepted nowhere => cases placed.symm.trans nowhere
  | unfetched accepted found absent raised => cases raised
  | fetched accepted found absent fetched written | present accepted found there written =>
    cases templateFormed.symm.trans written
    rfl

theorem objects_wholeOrNone_of_null :
    let host : Host := { current := [], environment := [], temporaryNames := toString }
    let raw : RawConfig := .document (.map none [(.text "chartName", .text "nginx")])
    let world : World := ⟨Files.empty.add ["tmp"] .directory 0o777, 0, [], []⟩
    let output := Text.octets "false\n---\n"
    let runner := Runner.rendering (Text.Utf8.encode "v3.14.2") output
    ∃ config directory configured,
      (Config.resolve host raw).run world = (.ok (config, directory), configured) ∧
      ((Generator.ready config directory).generate host runner configured).result = .ok output ∧
      Yaml.loadAll (.bytes output) = .ok [.boolean false, .null] ∧
      ((Generator.ready config directory).objects host runner configured).result =
        .ok [.boolean false] := by
  intro host raw world output runner
  obtain ⟨config, directory, configured, resolved⟩ :
      ∃ config directory configured,
        (Config.resolve host raw).run world = (.ok (config, directory), configured) :=
    ⟨_, _, _, rfl⟩
  have made := generate_rendering resolved supported_three output configured
  have loaded : Yaml.loadAll (.bytes output) = .ok [.boolean false, .null] := by
    have shape : (Yaml.loadAll (.bytes (Text.octets "false\n---\n"))).toOption.map
        (List.map fun value => (value.isPresent, value.truth?)) =
          some [(true, some false), (false, none)] := by decide +kernel
    obtain ⟨values, read, shapes⟩ := Option.map_eq_some_iff.mp shape
    obtain ⟨first, rest, rfl, truth, shapes⟩ := List.map_eq_cons_iff.mp shapes
    obtain ⟨second, rest, rfl, absent, shapes⟩ := List.map_eq_cons_iff.mp shapes
    obtain rfl := List.map_eq_nil_iff.mp shapes
    obtain rfl := Value.truth?_eq_some.mp (Prod.ext_iff.mp truth).2
    obtain rfl := Value.isPresent_eq_false.mp (Prod.ext_iff.mp absent).1
    exact eq_ok_of_toOption read
  obtain ⟨chart, -, law⟩ := objects_wholeOrNone resolved
  obtain ⟨-, -, -, read, -⟩ := law runner configured
  obtain ⟨⟨values, ending, yields⟩, decided⟩ := read output made
  have same := (Yaml.loadAll_of_yields yields).symm.trans loaded
  refine ⟨config, directory, configured, resolved, made, loaded, ?_⟩
  cases ending with
  | none =>
    cases same
    exact (decided _ _ yields).whole rfl
  | some fault => cases same

/-- A day that does not exist is not told as a failure of rendering, although the runner does not
fail. -/
theorem objects_not_classified :
    let host : Host := { current := [], environment := [], temporaryNames := toString }
    let raw : RawConfig := .document (.map none [(.text "chartName", .text "nginx")])
    let world : World := ⟨Files.empty.add ["tmp"] .directory 0o777, 0, [], []⟩
    let output := Text.octets "day: 2001-13-01\n"
    let runner := Runner.rendering (Text.Utf8.encode "v3.14.2") output
    ∃ config directory configured failure,
      (Config.resolve host raw).run world = (.ok (config, directory), configured) ∧
      ((Generator.ready config directory).generate host runner configured).result = .ok output ∧
      ((Generator.ready config directory).objects host runner configured).result =
        .error failure ∧ failure.purpose? = none ∧ failure.isReported = false := by
  intro host raw world output runner
  obtain ⟨config, directory, configured, resolved⟩ :
      ∃ config directory configured,
        (Config.resolve host raw).run world = (.ok (config, directory), configured) :=
    ⟨_, _, _, rfl⟩
  have made : ((Generator.ready config directory).generate host runner configured).result =
      .ok output := generate_rendering resolved supported_three output configured
  have broken : failure? (Yaml.loadAll (.bytes (Text.octets "day: 2001-13-01\n"))) =
      some (.scalar (.calendar .month)) := by decide +kernel
  have failed := eq_error_of_failure? broken
  refine ⟨config, directory, configured, .scalar (.scalar (.calendar .month)), resolved, made, ?_,
    rfl, rfl⟩
  simp only [Generator.objects, made, Except.bind]
  rw [Generator.readObjects, failed]

end ChartManifests
