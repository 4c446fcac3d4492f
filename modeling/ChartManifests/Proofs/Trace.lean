import ChartManifests.Proofs.Generator.Course
import ChartManifests.Runner.Subprocess
/-!
What a log tells about steps. Steps are recorded one inside of the other, and each is closed once,
as done or as failed. A failure closes the steps around it as failed, from the innermost to the
outermost, and nothing is recorded in between.
-/

namespace ChartManifests

def Event.isTrace : Event → Bool
  | stepBegun _ | stepDone _ | stepFailed _ => true
  | _ => false

def traces (log : List Event) : List Event := log.filter Event.isTrace

def closing (completes : Bool) (label : Text) : Event :=
  if completes then .stepDone label else .stepFailed label

inductive Balanced : List Event → Prop
  | nothing : Balanced []
  | step {inner rest : List Event} (completes : Bool) (label : Text) :
      Balanced inner → Balanced rest →
      Balanced (.stepBegun label :: inner ++ closing completes label :: rest)

/-- Every step that begins is closed, as done or, where what is told of does not complete, as failed
at the very end. -/
inductive Nested : Bool → List Event → Prop
  | nothing {completes : Bool} : Nested completes []
  | done {completes : Bool} {inner rest : List Event} (label : Text) :
      Nested true inner → Nested completes rest →
      Nested completes (.stepBegun label :: inner ++ .stepDone label :: rest)
  | failed {inner : List Event} (label : Text) :
      Nested false inner → Nested false (.stepBegun label :: inner ++ [.stepFailed label])

/-- A property of what is told about steps that goes with the way in which actions are put together.
It may depend on whether the action completes. -/
structure Discipline (holds : Bool → List Event → Prop) : Prop where
  nothing : ∀ completes, holds completes []
  append : ∀ {completes first next}, holds true first → holds completes next →
    holds completes (first ++ next)
  step : ∀ {completes inner} (label : Text), holds completes inner →
    holds completes (.stepBegun label :: inner ++ [closing completes label])

theorem Balanced.append {first next : List Event} (own : Balanced first) (other : Balanced next) :
    Balanced (first ++ next) := by
  induction own with
  | nothing => exact other
  | step completes label inner _ _ ih =>
    have whole := Balanced.step completes label inner ih
    simpa using whole

theorem discipline_balanced : Discipline fun _ => Balanced where
  nothing _ := .nothing
  append := Balanced.append
  step label inner := .step _ label inner .nothing

theorem Nested.append {first next : List Event} {completes : Bool} (own : Nested true first)
    (other : Nested completes next) : Nested completes (first ++ next) := by
  generalize succeeded : true = told at own
  induction own with
  | nothing => exact other
  | done label inner _ _ ih =>
    cases succeeded
    have whole := Nested.done label inner (ih rfl)
    simpa using whole
  | failed => cases succeeded

theorem discipline_nested : Discipline Nested where
  nothing _ := .nothing
  append := Nested.append
  step {completes} _ label inner := by
    cases completes with
    | true => exact .done label inner .nothing
    | false => exact .failed label inner

theorem Nested.unfailed {events : List Event} (own : Nested true events) (label : Text) :
    .stepFailed label ∉ events := by
  generalize succeeded : true = told at own
  induction own with
  | nothing => exact List.not_mem_nil
  | done other inner rest within behind =>
    have first := within rfl
    have last := behind succeeded
    simp [first, last]
  | failed => cases succeeded

theorem traces_append (first next : List Event) :
    traces (first ++ next) = traces first ++ traces next :=
  List.filter_append first next

theorem traces_step (completes : Bool) (label : Text) (inner : List Event) :
    traces (.stepBegun label :: inner ++ [closing completes label]) =
      .stepBegun label :: traces inner ++ [closing completes label] := by
  cases completes <;> simp [traces, closing, List.filter_cons, Event.isTrace]

def Action.Records {α : Type} (holds : Bool → List Event → Prop) (action : Action α) : Prop :=
  ∀ world, ∃ events, (action.run world).2.log = world.log ++ events ∧
    holds (action.run world).1.isOk (traces events)

theorem traced_log {α : Type} {step : String} {chart : Option Text} {body : Action α}
    {world : World} {events : List Event}
    (added : (body.run (stepBegun step chart world)).2.log =
      (stepBegun step chart world).log ++ events) :
    ((traced step chart body).run world).2.log = world.log ++
      (.stepBegun (stepLabel step chart) :: events ++
        [closing ((traced step chart body).run world).1.isOk (stepLabel step chart)]) := by
  rw [traced_result]
  simp only [stepBegun, World.record] at added
  simp only [traced, Action.run_of, stepBegun, World.record]
  cases (body.run { world with log := world.log ++ [.stepBegun (stepLabel step chart)] }).1 <;>
    simp [added, Except.isOk, Except.toBool, closing]

section Records

variable {holds : Bool → List Event → Prop} {α β : Type}

namespace Action.Records

theorem quiet (discipline : Discipline holds) {action : Action α}
    (silent : ∀ world, ∃ events, (action.run world).2.log = world.log ++ events ∧
      traces events = []) : action.Records holds := by
  intro world
  obtain ⟨events, added, none⟩ := silent world
  exact ⟨events, added, none ▸ discipline.nothing _⟩

theorem pure (discipline : Discipline holds) (value : α) :
    Records holds (Pure.pure value : Action α) :=
  quiet discipline fun _ => ⟨[], by simp, rfl⟩

theorem lift (discipline : Discipline holds) (result : Except Failure α) :
    (Action.lift result).Records holds :=
  quiet discipline fun _ => ⟨[], by simp, rfl⟩

theorem record (discipline : Discipline holds) {event : Event} (other : event.isTrace = false) :
    (Action.record event).Records holds :=
  quiet discipline fun _ => ⟨[event], rfl, by simp [traces, other]⟩

theorem bind (discipline : Discipline holds) {action : Action α} {next : α → Action β}
    (first : action.Records holds) (then_ : ∀ value, (next value).Records holds) :
    (action >>= next).Records holds := by
  intro world
  obtain ⟨events, added, held⟩ := first world
  rw [Action.run_bind]
  cases ended : action.run world with
  | mk result after =>
    rw [ended] at added held
    cases result with
    | error failure => exact ⟨events, added, held⟩
    | ok value =>
      obtain ⟨others, more, also⟩ := then_ value after
      refine ⟨events ++ others, ?_, ?_⟩
      · exact more.trans (by rw [added, List.append_assoc])
      · rw [traces_append]
        exact discipline.append held also

theorem traced (discipline : Discipline holds) (step : String) (chart : Option Text)
    {body : Action α} (inner : body.Records holds) :
    (ChartManifests.traced step chart body).Records holds := by
  intro world
  obtain ⟨events, added, held⟩ := inner (stepBegun step chart world)
  refine ⟨_, traced_log added, ?_⟩
  rw [traced_result, traces_step]
  exact discipline.step _ held

end Action.Records

def Runner.Records (holds : Bool → List Event → Prop) (runner : Runner) : Prop :=
  ∀ turn, holds (runner.answer turn).result.isOk (traces (runner.answer turn).events)

theorem Runner.Records.run {runner : Runner} (own : runner.Records holds) (command : Command) :
    (runner.run command).Records holds :=
  fun world => ⟨_, rfl, own ⟨world.commands, command, world.files⟩⟩

open Action.Records Helm

variable (discipline : Discipline holds) {host : Host} {runner : Runner} {config : Config}
  (own : runner.Records holds)

include discipline

include own in
theorem checkVersion_records : (checkVersion runner config).Records holds :=
  .bind discipline (.traced discipline _ _ (own.run _)) fun _ =>
    .bind discipline (.lift discipline _) fun version =>
      .bind discipline (.record discipline rfl) fun _ => .pure discipline version

theorem hasLocalChart_records : (hasLocalChart host config).Records holds :=
  .bind discipline (.lift discipline _) fun _ =>
    .quiet discipline fun world => ⟨[], (List.append_nil world.log).symm, rfl⟩

include own in
theorem pull_records : (pull runner config).Records holds :=
  .bind discipline (.traced discipline _ _ (own.run _)) fun _ => .pure discipline ()

include own in
theorem ensureChart_records : (ensureChart host runner config).Records holds := by
  refine .bind discipline (hasLocalChart_records discipline) fun there => ?_
  cases there with
  | true =>
    exact .bind discipline (.lift discipline _) fun _ =>
      .bind discipline (.record discipline rfl) fun _ => .pure discipline false
  | false => exact .bind discipline (pull_records discipline own) fun _ => .pure discipline true

include own in
theorem template_records : (Helm.template runner config).Records holds :=
  .traced discipline _ _ (.bind discipline (.lift discipline _) fun _ => own.run _)

include own in
theorem acquire_records : (Generator.acquire host runner config).Records holds := by
  refine .bind discipline (ensureChart_records discipline own) fun pulled => ?_
  cases pulled with
  | true => exact .bind discipline (.record discipline rfl) fun _ => template_records discipline own
  | false => exact template_records discipline own

variable (host config) in
include own in
theorem inflate_log (world : World) :
    ∃ events, ((Generator.inflate host runner config).run world).2.log = world.log ++
      (.stepBegun (stepLabel "generate" config.chartName) :: events ++
        [closing ((Generator.inflate host runner config).run world).1.isOk
          (stepLabel "generate" config.chartName)]) ∧
      holds ((Generator.inflate host runner config).run world).1.isOk (traces events) := by
  have checked : (discard (checkVersion runner config) : Action Unit).Records holds :=
    .bind discipline (checkVersion_records discipline own) fun _ => .pure discipline ()
  have body : (discard (checkVersion runner config) >>= fun _ =>
      Generator.acquire host runner config).Records holds :=
    .bind discipline checked fun _ => acquire_records discipline own
  obtain ⟨events, added, held⟩ := body (stepBegun "generate" config.chartName world)
  refine ⟨events, traced_log added, ?_⟩
  rw [Generator.inflate, traced_result]
  exact held

end Records

section Trees

/-- The end of a step: what is recorded before it as long as nothing fails, the labels of the steps
that it ends or that are around it, innermost first, and what is raised there. -/
structure StepEnd where
  before : List Event
  around : List Text
  raises : Option String

namespace StepEnd

def inside (label : Text) (ending : StepEnd) : StepEnd :=
  ⟨.stepBegun label :: ending.before, ending.around ++ [label], ending.raises⟩

def behind (events : List Event) (ending : StepEnd) : StepEnd :=
  { ending with before := events ++ ending.before }

/-- What is recorded if a step fails there: it and the steps around it are closed. -/
def failure (ending : StepEnd) : List Event :=
  ending.before ++ ending.around.map .stepFailed

end StepEnd

mutual

def StepTree.records : StepTree → List Event
  | .node step chart inner _ =>
    .stepBegun (stepLabel step chart) :: recordsOf inner ++ [.stepDone (stepLabel step chart)]

def recordsOf : List StepTree → List Event
  | [] => []
  | tree :: rest => tree.records ++ recordsOf rest

end

mutual

/-- The ends of a step and of those inside of it, in the order of time. -/
def StepTree.ends : StepTree → List StepEnd
  | .node step chart inner raises =>
    (endsOf inner).map (StepEnd.inside (stepLabel step chart)) ++
      [⟨.stepBegun (stepLabel step chart) :: recordsOf inner, [stepLabel step chart], raises⟩]

def endsOf : List StepTree → List StepEnd
  | [] => []
  | tree :: rest => tree.ends ++ (endsOf rest).map (StepEnd.behind tree.records)

end

def firstFailure (ends : List StepEnd) : Option (StepEnd × String) :=
  ends.findSome? fun ending => ending.raises.map fun text => (ending, text)

def goes (world : World) (records : List Event) (ends : List StepEnd) :
    Except Failure Unit × World :=
  match firstFailure ends with
  | some (ending, text) => (.error (.raised text), world.recordAll ending.failure)
  | none => (.ok (), world.recordAll records)

theorem firstFailure_append (first next : List StepEnd) :
    firstFailure (first ++ next) = (firstFailure first).or (firstFailure next) := by
  rw [firstFailure, List.findSome?_append]
  rfl

theorem firstFailure_map (change : StepEnd → StepEnd)
    (same : ∀ ending, (change ending).raises = ending.raises) (ends : List StepEnd) :
    firstFailure (ends.map change) =
      (firstFailure ends).map fun found => (change found.1, found.2) := by
  induction ends with
  | nil => rfl
  | cons ending rest ih =>
    simp only [firstFailure, List.map_cons, List.findSome?_cons, same] at ih ⊢
    cases ending.raises with
    | none => exact ih
    | some text => rfl

mutual

theorem StepTree.run_goes : ∀ (tree : StepTree) (world : World),
    tree.run.run world = goes world tree.records tree.ends
  | .node step chart inner raises, world => by
    have within := runSteps_goes inner (stepBegun step chart world)
    simp only [StepTree.run, traced, Action.run_of, Action.run_bind, ← stepBegun.eq_1, within,
      StepTree.records, StepTree.ends, goes, firstFailure_append,
      firstFailure_map (StepEnd.inside (stepLabel step chart)) fun _ => rfl]
    cases firstFailure (endsOf inner) with
    | some found =>
      simp [World.recordAll, World.record, stepBegun, StepEnd.failure, StepEnd.inside]
    | none =>
      cases raises with
      | some text =>
        simp [firstFailure, Action.fail, World.recordAll, World.record, stepBegun, StepEnd.failure]
      | none => simp [firstFailure, World.recordAll, World.record, stepBegun]

theorem runSteps_goes : ∀ (steps : List StepTree) (world : World),
    (runSteps steps).run world = goes world (recordsOf steps) (endsOf steps)
  | [], world => by
    simp [runSteps, goes, recordsOf, endsOf, firstFailure, World.recordAll]
  | tree :: rest, world => by
    have first := tree.run_goes world
    have others := runSteps_goes rest (world.recordAll tree.records)
    simp only [runSteps, Action.run_bind, first, recordsOf, endsOf, goes, firstFailure_append,
      firstFailure_map (StepEnd.behind tree.records) fun _ => rfl]
    cases firstFailure tree.ends with
    | some found => rfl
    | none =>
      simp only [others, goes, Option.none_or]
      cases firstFailure (endsOf rest) with
      | some found => simp [World.recordAll, StepEnd.failure, StepEnd.behind]
      | none => simp [World.recordAll]

end

/-- An end is where a step would be closed as done. If that step fails instead, it is closed there
and the steps around it behind it, one after the other. -/
structure StepEnd.StandsIn (records : List Event) (ending : StepEnd) : Prop where
  place : ∃ label outer after, ending.around = label :: outer ∧
    records = ending.before ++ .stepDone label :: after
  nested : Nested false ending.failure

theorem StepEnd.StandsIn.inside {inner : List Event} {ending : StepEnd} (label : Text)
    (stands : ending.StandsIn inner) :
    (ending.inside label).StandsIn (.stepBegun label :: inner ++ [.stepDone label]) := by
  constructor
  · obtain ⟨own, outer, after, around, rfl⟩ := stands.place
    refine ⟨own, outer ++ [label], after ++ [.stepDone label], ?_, ?_⟩
    · simp [StepEnd.inside, around]
    · simp [StepEnd.inside]
  · have whole := Nested.failed label stands.nested
    simpa [StepEnd.failure, StepEnd.inside] using whole

theorem StepEnd.StandsIn.before {records : List Event} {ending : StepEnd} (rest : List Event)
    (stands : ending.StandsIn records) : ending.StandsIn (records ++ rest) := by
  refine ⟨?_, stands.nested⟩
  obtain ⟨own, outer, after, around, rfl⟩ := stands.place
  exact ⟨own, outer, after ++ rest, around, by simp⟩

theorem StepEnd.StandsIn.behind {events records : List Event} {ending : StepEnd}
    (told : Nested true events) (stands : ending.StandsIn records) :
    (ending.behind events).StandsIn (events ++ records) := by
  constructor
  · obtain ⟨own, outer, after, around, rfl⟩ := stands.place
    exact ⟨own, outer, after, around, by simp [StepEnd.behind]⟩
  · have whole := told.append stands.nested
    simpa [StepEnd.failure, StepEnd.behind] using whole

mutual

theorem StepTree.records_nested : ∀ tree : StepTree, Nested true tree.records
  | .node step chart inner _ =>
    discipline_nested.step (stepLabel step chart) (recordsOf_nested inner)

theorem recordsOf_nested : ∀ steps : List StepTree, Nested true (recordsOf steps)
  | [] => .nothing
  | tree :: rest => tree.records_nested.append (recordsOf_nested rest)

end

mutual

theorem StepTree.ends_stand : ∀ tree : StepTree, ∀ ending ∈ tree.ends,
    ending.StandsIn tree.records
  | .node step chart inner raises => by
    intro ending present
    rw [StepTree.ends, List.mem_append, List.mem_map, List.mem_singleton] at present
    obtain ⟨own, within, rfl⟩ | rfl := present
    · exact (endsOf_stand inner own within).inside _
    · refine ⟨⟨_, [], [], rfl, rfl⟩, ?_⟩
      exact .failed _ (by simpa using (recordsOf_nested inner).append .nothing)

theorem endsOf_stand : ∀ steps : List StepTree, ∀ ending ∈ endsOf steps,
    ending.StandsIn (recordsOf steps)
  | [], ending, present => nomatch present
  | tree :: rest, ending, present => by
    rw [endsOf, List.mem_append, List.mem_map] at present
    obtain first | ⟨own, later, rfl⟩ := present
    · exact (tree.ends_stand ending first).before _
    · exact (endsOf_stand rest own later).behind tree.records_nested

end

theorem firstFailure_none {ends : List StepEnd} (quiet : ∀ ending ∈ ends, ending.raises = none) :
    firstFailure ends = none := by
  rw [firstFailure, List.findSome?_eq_none_iff]
  intro ending present
  rw [quiet ending present]
  rfl

theorem firstFailure_first {earlier later : List StepEnd} {ending : StepEnd} {text : String}
    (quiet : ∀ other ∈ earlier, other.raises = none) (raises : ending.raises = some text) :
    firstFailure (earlier ++ ending :: later) = some (ending, text) := by
  rw [firstFailure_append, firstFailure_none quiet, Option.none_or, firstFailure,
    List.findSome?_cons, raises]
  rfl

end Trees

def WithinStep (holds : List Event → Prop) (label : Text) (completes : Bool)
    (before after : List Event) : Prop :=
  ∃ events inner, after = before ++ events ∧
    traces events = .stepBegun label :: inner ++ [closing completes label] ∧ holds inner

theorem generate_within {holds : Bool → List Event → Prop} (discipline : Discipline holds)
    {host : Host} {runner : Runner} (own : runner.Records holds) (config : Config)
    (directory : WorkingDirectory) (world : World) :
    let reply := (Generator.ready config directory).generate host runner world
    WithinStep (holds reply.result.isOk) (stepLabel "generate" config.chartName) reply.result.isOk
      world.log reply.world.log := by
  intro reply
  have result : reply.result = ((Generator.inflate host runner config).run world).1 := rfl
  obtain ⟨events, added, held⟩ := inflate_log discipline host config own world
  rw [← result] at added held
  have whole : reply.world.log = world.log ++
      (.stepBegun (stepLabel "generate" config.chartName) :: events ++
        [closing reply.result.isOk (stepLabel "generate" config.chartName)] ++
          [.directoryRemoved directory.path.text]) := by
    rw [← List.append_assoc, ← added]
    rfl
  refine ⟨_, traces events, whole, ?_, held⟩
  rw [traces_append, traces_step]
  exact List.append_nil _

theorem subprocess_records {holds : Bool → List Event → Prop} (discipline : Discipline holds)
    (machine : Machine) (host : Host) (limit : Int) :
    (Runner.subprocess machine host limit).Records holds := by
  intro turn
  have silent : traces ((Runner.subprocess machine host limit).answer turn).events = [] := by
    simp only [Runner.answer, Runner.subprocess]
    split
    · rfl
    · cases turn.command.launch host limit.toNat with
      | error defect => rfl
      | ok launch =>
        simp only [Runner.conclude]
        cases (machine launch turn.files).1 with
        | notStarted refusal => rfl
        | overdue => rfl
        | exited status output errors =>
          simp only
          split <;> rfl
  rw [silent]
  exact discipline.nothing _

/-- Steps are recorded one inside of the other. If none raises anything, all of them are closed as
done. Otherwise everything is recorded up to the end of the first step that raises something; then
this one and the steps around it are closed as failed, from the innermost to the outermost, and what
it raised is what comes out. So a generator records one step, in which every other one is closed. -/
theorem steps_traced :
    (∀ (steps : List StepTree) (world : World), Nested true (recordsOf steps) ∧
      ((∀ ending ∈ endsOf steps, ending.raises = none) →
        (runSteps steps).run world = (.ok (), world.recordAll (recordsOf steps))) ∧
      ∀ (earlier later : List StepEnd) (ending : StepEnd) (text : String),
        endsOf steps = earlier ++ ending :: later → (∀ other ∈ earlier, other.raises = none) →
        ending.raises = some text →
        (runSteps steps).run world = (.error (.raised text), world.recordAll
          (ending.before ++ ending.around.map .stepFailed)) ∧
        Nested false (ending.before ++ ending.around.map .stepFailed) ∧
        (∀ label, .stepFailed label ∉ ending.before) ∧
        ∃ label outer after, ending.around = label :: outer ∧
          recordsOf steps = ending.before ++ .stepDone label :: after) ∧
    ∀ (host : Host) (runner : Runner) (generator : Generator) (world : World),
      let reply := generator.generate host runner world
      match generator with
      | .ready config _ =>
        let label := stepLabel "generate" config.chartName
        let completes := reply.result.isOk
        (runner.Records (fun _ => Balanced) →
          WithinStep Balanced label completes world.log reply.world.log) ∧
        (runner.Records Nested →
          WithinStep (Nested completes) label completes world.log reply.world.log)
      | _ => reply.result.isOk = false ∧ reply.world = world := by
  refine ⟨fun steps world => ⟨recordsOf_nested steps, ?_, ?_⟩, ?_⟩
  · intro quiet
    rw [runSteps_goes, goes, firstFailure_none quiet]
  · intro earlier later ending text ends quiet raises
    have stands := endsOf_stand steps ending (by simp [ends])
    refine ⟨?_, stands.nested, ?_, stands.place⟩
    · rw [runSteps_goes, goes, ends, firstFailure_first quiet raises]
      rfl
    · intro label failed
      obtain ⟨_, _, _, _, records⟩ := stands.place
      exact (recordsOf_nested steps).unfailed label
        (records ▸ List.mem_append_left _ failed)
  · intro host runner generator world
    rcases generator with ⟨_ | config, _ | directory⟩
    · exact ⟨rfl, rfl⟩
    · exact ⟨rfl, rfl⟩
    · exact ⟨rfl, rfl⟩
    · exact ⟨fun own => generate_within discipline_balanced own config directory world,
        fun own => generate_within discipline_nested own config directory world⟩

/-- Steps whose second one raises something around a first one that is done, and a generator on a
machine where every program fails. -/
theorem steps_traced_of_failure :
    let world : World := ⟨.empty, 0, [], []⟩
    let pulled := StepTree.node "pull" none [] none
    let rendered := StepTree.node "template" (some "web") [] (some "no such chart")
    let before : List Event :=
      [.stepBegun "generate", .stepBegun "pull", .stepDone "pull", .stepBegun "template [web]"]
    let around : List Text := ["template [web]", "generate"]
    let host : Host := { current := [], environment := [], temporaryNames := toString }
    let runner := Runner.subprocess (fun _ files => (.exited 1 [] [], files)) host 1
    let generator := Generator.ready { Config.empty with chartName := some "web" } ⟨["tmp", "own"]⟩
    let reply := generator.generate host runner world
    (runSteps [.node "generate" none [pulled, rendered] none]).run world =
      (.error (.raised "no such chart"), world.recordAll (before ++ around.map .stepFailed)) ∧
    runner.Records Nested ∧
    WithinStep (Nested false) "generate [web]" false world.log reply.world.log := by
  intro world pulled rendered before around host runner generator reply
  have records : runner.Records Nested := subprocess_records discipline_nested _ host 1
  obtain ⟨raised, _⟩ := (steps_traced.1 [.node "generate" none [pulled, rendered] none] world).2.2
    [⟨[.stepBegun "generate", .stepBegun "pull"], ["pull", "generate"], none⟩] _
    ⟨before, around, some "no such chart"⟩ "no such chart" rfl (by simp) rfl
  refine ⟨raised, records, ?_⟩
  exact (steps_traced.2 host runner generator world).2 records

end ChartManifests
