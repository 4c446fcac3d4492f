import ChartManifests.Proofs.Generator.Company
import ChartManifests.Proofs.Generator.Shelter
/-!
A turn of a worker. What it comes to is the same in all worlds where the worker finds its own
directory as it left it, and what it does to the world stays in that directory, or in one that is
made for it.
-/

namespace ChartManifests

def Host.naming (host : Host) (names : Nat → String) : Host := { host with temporaryNames := names }

def Generator.held? : Generator → Option (Config × WorkingDirectory)
  | .ready config directory => some (config, directory)
  | _ => none

def Generator.HasState (generator : Generator) : Prop :=
  ∃ state : GeneratorState, generator = state.fields

theorem Generator.hasState_of_running {run : Run} (generator : Generator)
    (engaged : Engagement.running run = .idle generator) : generator.HasState := by
  cases engaged

namespace Worker

def held? (worker : Worker) : Option (Config × WorkingDirectory) :=
  match worker.engagement with
  | .idle generator => generator.held?
  | .running run => some (run.config, run.directory)

def Waiting (worker : Worker) : Prop :=
  ∀ run, worker.engagement = .running run → run.stage ≠ .rendering

/-- What a worker holds is in order: its directories are among those that a host makes from a world
on, and the one that it uses is there, with nothing in it while the worker waits. -/
structure Settled (host : Host) (start : World) (files : Files) (worker : Worker) : Prop where
  state : ∀ generator, worker.engagement = .idle generator → generator.HasState
  numbered : ∀ directory ∈ worker.given, ∃ number, start.directories ≤ number ∧
    directory = WorkingDirectory.numbered host number
  given : ∀ config directory, worker.held? = some (config, directory) → directory ∈ worker.given
  housed : ∀ config directory, worker.held? = some (config, directory) → config.Housed directory
  standing : ∀ config directory, worker.held? = some (config, directory) →
    files.standing? directory.location = some .directory
  empty : ∀ config directory, worker.held? = some (config, directory) → worker.Waiting →
    ∀ place, directory.location <+: place → place ≠ directory.location →
      files.standing? place = none

/-- What a turn does: files change in directories that the worker holds before or behind it, nothing
is left of a directory that it holds no more, and what it is given anew was drawn. -/
structure Tended (host : Host) (start : World) (drawn : WorkingDirectory) (worker turned : Worker)
    (before after : World) : Prop where
  settled : turned.Settled host start after.files
  operations : turned.operations ⊆ worker.operations
  draws : turned.given = worker.given ∧ after.directories = before.directories ∨
    turned.given = worker.given ++ [drawn] ∧ after.directories = before.directories + 1
  spares : ∀ place, (∀ config directory, worker.held? = some (config, directory) ∨
      turned.held? = some (config, directory) → ¬ directory.location <+: place) →
    after.files.standing? place = before.files.standing? place
  clears : ∀ config directory, worker.held? = some (config, directory) →
    (∀ other, turned.held? ≠ some (other, directory)) →
    ∀ place, directory.location <+: place → after.files.standing? place = none

variable {host : Host} {start : World} {worker turned : Worker} {before after : World}
  {drawn : WorkingDirectory} {run : Run}

theorem held?_of_idle {generator : Generator} (engaged : worker.engagement = .idle generator) :
    worker.held? = generator.held? := by
  simp only [held?, engaged]

theorem held?_of_running (engaged : worker.engagement = .running run) :
    worker.held? = some (run.config, run.directory) := by
  simp only [held?, engaged]

theorem waiting_of_running (engaged : worker.engagement = .running run)
    (early : run.stage ≠ .rendering) : worker.Waiting := by
  intro other same
  cases engaged.symm.trans same
  exact early

theorem Settled.held_numbered {files : Files} {config : Config} {directory : WorkingDirectory}
    (settled : worker.Settled host start files) (held : worker.held? = some (config, directory)) :
    ∃ number, start.directories ≤ number ∧ directory = .numbered host number :=
  settled.numbered directory (settled.given config directory held)

theorem Settled.of_released {files : Files}
    (state : ∀ generator, worker.engagement = .idle generator → generator.HasState)
    (numbered : ∀ directory ∈ worker.given, ∃ number, start.directories ≤ number ∧
      directory = WorkingDirectory.numbered host number)
    (released : worker.held? = none) : worker.Settled host start files := by
  refine ⟨state, numbered, ?_, ?_, ?_, ?_⟩ <;> simp [released]

theorem Tended.of_same (settled : worker.Settled host start before.files)
    (state : ∀ generator, turned.engagement = .idle generator → generator.HasState)
    (held : turned.held? = worker.held?) (given : turned.given = worker.given)
    (operations : turned.operations ⊆ worker.operations)
    (waiting : turned.Waiting → worker.Waiting)
    (directories : after.directories = before.directories)
    (same : ∀ place, after.files.standing? place = before.files.standing? place) :
    worker.Tended host start drawn turned before after := by
  refine ⟨⟨state, ?_, ?_, ?_, ?_, ?_⟩, operations, .inl ⟨given, directories⟩,
    fun place _ => same place, ?_⟩
  · rw [given]
    exact settled.numbered
  · rw [held, given]
    exact settled.given
  · rw [held]
    exact settled.housed
  · intro config directory holds
    rw [same]
    exact settled.standing config directory (held ▸ holds)
  · intro config directory holds waits place inside other
    rw [same]
    exact settled.empty config directory (held ▸ holds) (waiting waits) place inside other
  · intro config directory holds lost
    exact absurd (held.trans holds) (lost config)

theorem Tended.given_cases (tended : worker.Tended host start drawn turned before after)
    {directory : WorkingDirectory} (present : directory ∈ turned.given) :
    directory ∈ worker.given ∨ directory = drawn := by
  rcases tended.draws with ⟨same, -⟩ | ⟨more, -⟩
  · exact .inl (same ▸ present)
  · rw [more] at present
    exact (List.mem_append.mp present).imp_right List.mem_singleton.mp

end Worker

theorem Stage.conclude_fetching {result : Except Failure Text.Bytes} {next : Stage}
    (concluded : Stage.fetching.conclude result = .ok (.inl next)) : next = .rendering := by
  cases result with
  | error failure => cases concluded
  | ok output =>
    cases concluded
    rfl

theorem Stage.conclude_rendering {result : Except Failure Text.Bytes} {next : Stage} :
    Stage.rendering.conclude result ≠ .ok (.inl next) := by
  cases result <;> exact nofun

theorem Run.standing?_ended {run : Run} {world : World} (result : Except Failure Text.Bytes)
    (there : world.files.standing? run.directory.location = some .directory) (place : Location) :
    (run.ended result world).files.standing? place =
      if run.directory.location <+: place then none else world.files.standing? place := by
  change (world.files.removeDirectory run.directory.location).standing? place = _
  rw [Files.standing?_removeDirectory]
  simp only [(Files.isDirectory_iff _ _).mpr there, true_and]

theorem WorkingDirectory.location_prefix (directory : WorkingDirectory) :
    directory.location <+: directory.chartLocation := List.prefix_append _ _

theorem WorkingDirectory.not_chartLocation_prefix (directory : WorkingDirectory) :
    ¬ directory.chartLocation <+: directory.location := by
  intro inside
  have bound := inside.length_le
  simp only [chartLocation, List.length_append, List.length_singleton] at bound
  omega

section Discard

variable {generator : Generator} {world : World} {place : Location}

theorem Generator.discardDirectory_spares (has : generator.HasState)
    (outside : ∀ config directory, generator.held? = some (config, directory) →
      ¬ directory.location <+: place) :
    (generator.discardDirectory world).files.standing? place = world.files.standing? place := by
  obtain ⟨state, rfl⟩ := has
  cases state with
  | unconfigured => rfl
  | spent config => rfl
  | ready config directory =>
    change (world.files.removeDirectory directory.location).standing? place = _
    rw [Files.standing?_removeDirectory, if_neg fun both => outside config directory rfl both.2]

theorem Generator.discardDirectory_clears {config : Config} {directory : WorkingDirectory}
    (has : generator.HasState) (held : generator.held? = some (config, directory))
    (there : world.files.standing? directory.location = some .directory)
    (inside : directory.location <+: place) :
    (generator.discardDirectory world).files.standing? place = none := by
  obtain ⟨state, rfl⟩ := has
  cases state with
  | unconfigured => cases held
  | spent config => cases held
  | ready config directory =>
    cases held
    change (world.files.removeDirectory directory.location).standing? place = _
    rw [Files.standing?_removeDirectory, if_pos ⟨(Files.isDirectory_iff _ _).mpr there, inside⟩]

end Discard

namespace Worker

variable {host : Host} {start : World} {worker turned : Worker} {before after : World}
  {drawn : WorkingDirectory} {runner : Runner} {run : Run}

theorem Tended.finish (settled : worker.Settled host start before.files)
    (engaged : worker.engagement = .running run)
    (directories : after.directories = before.directories)
    (there : after.files.standing? run.directory.location = some .directory)
    (spares : ∀ place, ¬ run.directory.location <+: place →
      after.files.standing? place = before.files.standing? place)
    (result : Except Failure Text.Bytes) :
    worker.Tended host start drawn (worker.finish run result after).2.1 before
      (worker.finish run result after).2.2 := by
  have holds := held?_of_running engaged
  have standing := Run.standing?_ended result there
  have spent : ∀ generator, Engagement.idle (.spent run.config) = .idle generator →
      generator.HasState := by
    rintro _ ⟨⟩
    exact ⟨.spent run.config, rfl⟩
  refine ⟨.of_released spent settled.numbered rfl, fun _ same => same, .inl ⟨rfl, directories⟩,
    ?_, ?_⟩
  · intro place outside
    have other := outside run.config run.directory (.inl holds)
    change (run.ended result after).files.standing? place = _
    rw [standing, if_neg other, spares place other]
  · intro config directory own _ place inside
    cases holds.symm.trans own
    change (run.ended result after).files.standing? place = _
    rw [standing, if_pos inside]

theorem Settled.performs (plain : host.NamesPlainly) (obedient : runner.Obedient host)
    (settled : worker.Settled host start before.files) (engaged : worker.engagement = .running run)
    (around : ∀ place, place <+: host.temporary → before.files.standing? place = some .directory)
    (sheltered : run.stage = .fetching → run.config.Sheltered before.files) :
    ∃ command after, run.stage.command run.config = .ok command ∧
      (run.stage.perform host runner run.config).run before =
        (run.stage.conclude (runner before.commands command before.files).result, after) ∧
      after.commands = before.commands ++ [command] ∧ after.directories = before.directories ∧
      ∀ place, after.files.standing? place ≠ before.files.standing? place →
        run.stage = .fetching ∧ run.directory.chartLocation <+: place := by
  have holds := held?_of_running engaged
  have housed := settled.housed _ _ holds
  obtain ⟨number, -, own⟩ := settled.held_numbered holds
  have vacant : run.stage ≠ .rendering → run.directory.Vacant before.files := by
    intro early
    have waits := waiting_of_running engaged early
    refine ⟨fun place outer => ?_, fun place inside => ?_⟩
    · have there := settled.standing _ _ holds
      rw [own] at outer there
      rcases List.prefix_concat_iff.mp outer with rfl | above
      · exact there
      · exact around place above
    · apply settled.empty _ _ holds waits place (run.directory.location_prefix.trans inside)
      rintro rfl
      exact run.directory.not_chartLocation_prefix inside
  rw [own] at housed vacant ⊢
  exact Stage.perform_obedient plain obedient housed sheltered vacant

theorem Tended.proceed (plain : host.NamesPlainly) (obedient : runner.Obedient host)
    (settled : worker.Settled host start before.files) (engaged : worker.engagement = .running run)
    (around : ∀ place, place <+: host.temporary → before.files.standing? place = some .directory)
    (sheltered : run.stage = .fetching → run.config.Sheltered before.files) :
    worker.Tended host start drawn (worker.proceed host runner run before).2.1 before
      (worker.proceed host runner run before).2.2 := by
  have holds := held?_of_running engaged
  have standing := settled.standing _ _ holds
  obtain ⟨command, between, -, performed, -, directories, changes⟩ :=
    settled.performs plain obedient engaged around sheltered
  have there : between.files.standing? run.directory.location = some .directory := by
    by_contra gone
    rw [← standing] at gone
    exact run.directory.not_chartLocation_prefix (changes _ gone).2
  have spares : ∀ place, ¬ run.directory.location <+: place →
      between.files.standing? place = before.files.standing? place := by
    intro place outside
    by_contra changed
    exact outside (run.directory.location_prefix.trans (changes place changed).2)
  unfold Worker.proceed
  rw [performed]
  generalize concluded : run.stage.conclude _ = result
  rcases result with failure | (next | output)
  · exact Tended.finish settled engaged directories there spares _
  · refine ⟨⟨Generator.hasState_of_running, settled.numbered, ?_, ?_, ?_, ?_⟩,
      fun _ same => same, .inl ⟨rfl, directories⟩, ?_, ?_⟩
    · rintro _ _ ⟨⟩
      exact settled.given _ _ holds
    · rintro _ _ ⟨⟩
      exact settled.housed _ _ holds
    · rintro _ _ ⟨⟩
      exact there
    · rintro _ _ ⟨⟩ waits place inside other
      by_contra filled
      have early : run.stage ≠ .rendering := by
        intro last
        rw [last] at concluded
        exact Stage.conclude_rendering concluded
      have nothing :=
        settled.empty _ _ holds (waiting_of_running engaged early) place inside other
      -- What was empty is filled by what is fetched only, and then the run is at its last stage.
      rw [← nothing] at filled
      have fetches := (changes place filled).1
      rw [fetches] at concluded
      exact waits _ rfl (Stage.conclude_fetching concluded)
    · intro place outside
      exact spares place (outside _ _ (.inl holds))
    · intro config directory own lost
      cases holds.symm.trans own
      exact absurd rfl (lost run.config)
  · exact Tended.finish settled engaged directories there spares _

section Configure

variable {generator : Generator}

theorem Tended.refused (settled : worker.Settled host start before.files)
    (engaged : worker.engagement = .idle generator) {rest : List Operation}
    (later : rest ⊆ worker.operations) :
    worker.Tended host start drawn ⟨.idle .unconfigured, rest, worker.given⟩ before
      (generator.discardDirectory before) := by
  have same := held?_of_idle engaged
  have has := settled.state generator engaged
  refine ⟨.of_released ?_ settled.numbered rfl, later,
    .inl ⟨rfl, discardDirectory_directories generator before⟩, ?_, ?_⟩
  · rintro _ ⟨⟩
    exact ⟨.unconfigured, rfl⟩
  · intro place outside
    apply Generator.discardDirectory_spares has
    exact fun config directory holds => outside config directory (.inl (same.trans holds))
  · intro config directory holds _ place inside
    exact Generator.discardDirectory_clears has (same ▸ holds) (settled.standing _ _ holds) inside

theorem Tended.accepted {config : Config} {maker : Host} {number : Nat}
    (settled : worker.Settled host start before.files)
    (engaged : worker.engagement = .idle generator) (housed : config.Housed drawn)
    (fresh : drawn = .numbered host number) (bound : start.directories ≤ number)
    (draws : drawn = .numbered maker before.directories) (new : drawn ∉ worker.given)
    (free : ∀ place, drawn.location <+: place → before.files.standing? place = none)
    {rest : List Operation} (later : rest ⊆ worker.operations) :
    worker.Tended host start drawn
      ⟨.idle (.ready config drawn), rest, worker.given ++ [drawn]⟩ before
      (WorkingDirectory.made maker (generator.discardDirectory before)) := by
  have same := held?_of_idle engaged
  have has := settled.state generator engaged
  have made : ∀ place,
      (WorkingDirectory.made maker (generator.discardDirectory before)).files.standing? place =
        if place = drawn.location then some .directory
        else (generator.discardDirectory before).files.standing? place := by
    intro place
    rw [WorkingDirectory.standing?_made, discardDirectory_directories, ← draws]
  have elsewhere : ∀ config directory, worker.held? = some (config, directory) → ∀ place,
      directory.location <+: place → ¬ drawn.location <+: place := by
    intro config directory holds place inside shared
    obtain ⟨own, -, numbered⟩ := settled.held_numbered holds
    rw [numbered] at inside
    rw [fresh] at shared
    apply new
    rw [fresh, WorkingDirectory.eq_of_prefix shared inside, ← numbered]
    exact settled.given _ _ holds
  refine ⟨⟨?_, ?_, ?_, ?_, ?_, ?_⟩, later, .inr ⟨rfl, ?_⟩, ?_, ?_⟩
  · rintro _ ⟨⟩
    exact ⟨.ready config drawn, rfl⟩
  · intro directory given
    rcases List.mem_append.mp given with old | only
    · exact settled.numbered directory old
    · exact ⟨number, bound, (List.mem_singleton.mp only).trans fresh⟩
  · rintro _ _ ⟨⟩
    exact List.mem_append_right _ List.mem_cons_self
  · rintro _ _ ⟨⟩
    exact housed
  · rintro _ _ ⟨⟩
    rw [made, if_pos rfl]
  · rintro _ _ ⟨⟩ _ place inside other
    rw [made, if_neg other, Generator.discardDirectory_spares has, free place inside]
    exact fun config directory holds within =>
      elsewhere config directory (same.trans holds) place within inside
  · change (generator.discardDirectory before).directories + 1 = _
    rw [discardDirectory_directories]
  · intro place outside
    have other : place ≠ drawn.location := by
      rintro rfl
      exact outside config drawn (.inr rfl) List.prefix_rfl
    rw [made, if_neg other, Generator.discardDirectory_spares has]
    exact fun config directory holds => outside config directory (.inl (same.trans holds))
  · intro config directory holds _ place inside
    have other : place ≠ drawn.location := by
      rintro rfl
      exact elsewhere config directory holds _ inside List.prefix_rfl
    rw [made, if_neg other]
    exact Generator.discardDirectory_clears has (same ▸ holds) (settled.standing _ _ holds) inside

end Configure

/-- A world that a worker can have a turn in: it finds its own directory as it left it. -/
structure Ready (host : Host) (start : World) (worker : Worker) (world : World) : Prop where
  settled : worker.Settled host start world.files
  around : ∀ place, place <+: host.temporary → world.files.standing? place = some .directory
  sheltered : ∀ run, worker.engagement = .running run → run.stage = .fetching →
    run.config.Sheltered world.files

/-- The directory that is made next is a certain one; the host is willing to make it, and nothing is
in its place. -/
structure Offers (host : Host) (names : Nat → String) (drawn : WorkingDirectory) (world : World) :
    Prop where
  draws : drawn = .numbered (host.naming names) world.directories
  willing : host.refusals world.directories = none
  free : ∀ place, drawn.location <+: place → world.files.standing? place = none

/-- What a turn comes to is the same in all worlds that are ready for it and, if it draws a
directory, have the same one to offer; and it does nothing to the world but what it may. -/
def Settles (host : Host) (start : World) (drawn : WorkingDirectory) (runner : Runner)
    (worker : Worker) : Prop :=
  ∃ outcome issued turned, ∀ names world, worker.Ready host start world →
    (turned.given ≠ worker.given → Offers host names drawn world) →
    ∃ after, worker.act (host.naming names) runner world = (outcome, turned, after) ∧
      after.commands = world.commands ++ issued ∧
      worker.Tended host start drawn turned world after

theorem settles_running {operations : List Operation} {given : List WorkingDirectory}
    (plain : host.NamesPlainly) (obedient : runner.Obedient host) :
    Settles host start drawn runner ⟨.running run, operations, given⟩ := by
  have performs := fun world (ready : Ready host start ⟨.running run, operations, given⟩ world) =>
    ready.settled.performs plain obedient rfl ready.around (ready.sheltered run rfl)
  cases formed : run.stage.command run.config with
  | error defect =>
    refine ⟨none, [], ⟨.running run, operations, given⟩, fun names world ready _ => ?_⟩
    obtain ⟨command, -, other, -⟩ := performs world ready
    cases formed.symm.trans other
  | ok command =>
    -- The answer to the command is the same in every world, so the conclusion from it is, too.
    have settles : ∀ outcome turned,
        (∀ world after, (run.stage.perform host runner run.config).run world =
            (run.stage.conclude (runner [] command .empty).result, after) →
          ∃ last, proceed host runner ⟨.running run, operations, given⟩ run world =
            (outcome, turned, last) ∧ last.commands = after.commands) →
        Settles host start drawn runner ⟨.running run, operations, given⟩ := by
      intro outcome turned proceeds
      refine ⟨outcome, [command], turned, fun names world ready _ => ?_⟩
      obtain ⟨own, after, other, performed, issued, -⟩ := performs world ready
      cases formed.symm.trans other
      rw [obedient.answers command world.commands [] world.files .empty] at performed
      obtain ⟨last, acted, kept⟩ := proceeds world after performed
      have tended : Tended host start drawn _ _ world _ := Tended.proceed plain obedient
        ready.settled rfl ready.around (ready.sheltered run rfl)
      rw [acted] at tended
      exact ⟨last, acted, kept.trans issued, tended⟩
    unfold proceed at settles
    cases concluded : run.stage.conclude (runner [] command .empty).result with
    | error failure =>
      refine settles (some (run.outcome (.error failure)))
        ⟨.idle (.spent run.config), operations, given⟩ fun world after performed => ?_
      rw [performed, concluded]
      exact ⟨_, rfl, rfl⟩
    | ok reached =>
      rcases reached with next | output
      · refine settles none ⟨.running { run with stage := next }, operations, given⟩
          fun world after performed => ?_
        rw [performed, concluded]
        exact ⟨_, rfl, rfl⟩
      · refine settles (some (run.outcome (.ok output)))
          ⟨.idle (.spent run.config), operations, given⟩ fun world after performed => ?_
        rw [performed, concluded]
        exact ⟨_, rfl, rfl⟩

theorem settles_done {generator : Generator} {given : List WorkingDirectory} :
    Settles host start drawn runner ⟨.idle generator, [], given⟩ := by
  refine ⟨none, [], _, fun names world ready _ => ⟨world, rfl, (List.append_nil _).symm, ?_⟩⟩
  exact Tended.of_same ready.settled ready.settled.state rfl rfl (fun _ same => same) id rfl
    fun _ => rfl

section Begins

variable {generator : Generator} {operation : Operation} {rest : List Operation}
  {given : List WorkingDirectory}

theorem settles_begins (begun : operation.begins? generator = some run) :
    Settles host start drawn runner ⟨.idle generator, operation :: rest, given⟩ := by
  refine ⟨none, [], ⟨.running run, rest, given⟩, fun names world ready _ =>
    ⟨world.record (.stepBegun run.label), ?_, (List.append_nil _).symm, ?_⟩⟩
  · simp only [act, begun]
  · have held : generator.held? = some (run.config, run.directory) := by
      rcases generator with ⟨_ | config, _ | directory⟩ <;> cases operation <;> cases begun <;> rfl
    refine Tended.of_same ready.settled Generator.hasState_of_running held.symm rfl
      (List.subset_cons_self _ _) ?_ rfl fun _ => rfl
    intro _ other same
    cases same

theorem act_idle (idle : operation.begins? generator = none) (world : World) :
    act host runner ⟨.idle generator, operation :: rest, given⟩ world =
      let (outcome, after) := Session.perform host runner ⟨generator, world⟩ operation
      (some outcome, ⟨.idle after.generator, rest,
        given ++ operation.drawn after.generator⟩, after.world) := by
  simp only [act, idle]

theorem settles_still (outcome : Outcome)
    (idle : operation.begins? generator = none) (undrawn : operation.drawn generator = [])
    (still : ∀ host runner world, Session.perform host runner ⟨generator, world⟩ operation =
      (outcome, ⟨generator, world⟩)) :
    Settles host start drawn runner ⟨.idle generator, operation :: rest, given⟩ := by
  refine ⟨some outcome, [], ⟨.idle generator, rest, given⟩, fun names world ready _ =>
    ⟨world, ?_, (List.append_nil _).symm, ?_⟩⟩
  · simp only [act_idle idle, still, undrawn, List.append_nil]
  · refine Tended.of_same ready.settled ?_ rfl rfl (List.subset_cons_self _ _) id rfl fun _ => rfl
    rintro _ ⟨⟩
    exact ready.settled.state generator rfl

theorem Offers.able {names : Nat → String} {world : World} {number : Nat}
    (offer : Offers host names drawn world) (fresh : drawn = .numbered host number)
    (new : drawn ∉ given)
    (ready : Ready host start ⟨.idle generator, operation :: rest, given⟩ world) :
    WorkingDirectory.fault? (host.naming names) (generator.discardDirectory world) = none := by
  have has := ready.settled.state generator rfl
  have elsewhere : ∀ place, place <+: drawn.location →
      (generator.discardDirectory world).files.standing? place = world.files.standing? place := by
    intro place outer
    apply Generator.discardDirectory_spares has
    intro config directory held inside
    have among := ready.settled.given config directory held
    obtain ⟨own, -, numbered⟩ := ready.settled.numbered directory among
    have shared := inside.trans outer
    rw [fresh, numbered] at shared
    apply new
    rw [fresh, WorkingDirectory.eq_of_prefix List.prefix_rfl shared, ← numbered]
    exact among
  rw [WorkingDirectory.fault?_eq_none_iff, discardDirectory_directories, ← offer.draws]
  refine ⟨offer.willing, ?_, ?_⟩
  · rw [elsewhere]
    · exact ready.around _ List.prefix_rfl
    · exact fresh ▸ List.prefix_append _ _
  · rw [elsewhere _ List.prefix_rfl]
    exact offer.free _ List.prefix_rfl

theorem settles_configure {raw : RawConfig} {number : Nat} (plain : host.NamesPlainly)
    (unset : ∀ read, Config.readNamed raw = .ok read → nonEmpty? read.chartHome = none)
    (fresh : drawn = .numbered host number) (bound : start.directories ≤ number)
    (new : drawn ∉ given) :
    Settles host start drawn runner ⟨.idle generator, .configure raw :: rest, given⟩ := by
  cases read : Config.readNamed raw with
  | error failure =>
    refine ⟨some (.configured (.error failure)), [], ⟨.idle .unconfigured, rest, given⟩,
      fun names world ready _ => ⟨generator.discardDirectory world, ?_, ?_, ?_⟩⟩
    · rw [act_idle rfl]
      simp only [Session.perform, Generator.configure, Config.resolve_error read, Operation.drawn,
        Option.toList_none, List.append_nil]
    · rw [discardDirectory_commands, List.append_nil]
    · exact Tended.refused ready.settled rfl (List.subset_cons_self _ _)
  | ok config =>
    obtain ⟨name, named, -⟩ := Config.readNamed_name read
    have housed : (config.completed drawn.path name).Housed drawn := by
      rw [fresh]
      exact Config.housed_of_completes plain ⟨config, name, read, named, rfl⟩ unset
    refine ⟨some (.configured (.ok ())), [],
      ⟨.idle (.ready (config.completed drawn.path name) drawn), rest, given ++ [drawn]⟩,
      fun names world ready offers =>
        ⟨WorkingDirectory.made (host.naming names) (generator.discardDirectory world), ?_, ?_, ?_⟩⟩
    all_goals have offer := offers (by simp)
    · rw [act_idle rfl]
      simp only [Session.perform, Generator.configure,
        Config.resolve_ok read named (offer.able fresh new ready), discardDirectory_directories,
        ← offer.draws, Operation.drawn]
      rfl
    · exact (discardDirectory_commands generator world).trans (List.append_nil _).symm
    · exact Tended.accepted ready.settled rfl housed fresh bound offer.draws new offer.free
        (List.subset_cons_self _ _)

theorem settles {number : Nat} (plain : host.NamesPlainly) (obedient : runner.Obedient host)
    (worker : Worker)
    (unset : ∀ raw, .configure raw ∈ worker.operations →
      ∀ read, Config.readNamed raw = .ok read → nonEmpty? read.chartHome = none)
    (fresh : drawn = .numbered host number) (bound : start.directories ≤ number)
    (new : drawn ∉ worker.given) : Settles host start drawn runner worker := by
  obtain ⟨engagement, operations, given⟩ := worker
  cases engagement with
  | running run => exact settles_running plain obedient
  | idle generator =>
    cases operations with
    | nil => exact settles_done
    | cons operation rest =>
      cases begun : operation.begins? generator with
      | some run => exact settles_begins begun
      | none =>
        cases operation with
        | configure raw =>
          exact settles_configure plain (unset raw List.mem_cons_self) fresh bound new
        | config => exact settles_still (.told generator.config) rfl rfl fun _ _ _ => rfl
        | generate =>
          rcases generator with ⟨_ | config, _ | directory⟩
          · exact settles_still (.generated (.error .notConfigured)) rfl rfl fun _ _ _ => rfl
          · exact settles_still (.generated (.error .notConfigured)) rfl rfl fun _ _ _ => rfl
          · exact settles_still (.generated (.error (.alreadyRun config.chartName))) rfl rfl
              fun _ _ _ => rfl
          · cases begun
        | objects =>
          rcases generator with ⟨_ | config, _ | directory⟩
          · exact settles_still (.listed (.error .notConfigured)) rfl rfl fun _ _ _ => rfl
          · exact settles_still (.listed (.error .notConfigured)) rfl rfl fun _ _ _ => rfl
          · exact settles_still (.listed (.error (.alreadyRun config.chartName))) rfl rfl
              fun _ _ _ => rfl
          · cases begun

end Begins

theorem given_act (host : Host) (runner : Runner) (worker : Worker) (world : World) :
    worker.given <+: (worker.act host runner world).2.1.given := by
  unfold act
  split
  next => unfold proceed; split <;> exact List.prefix_rfl
  next => exact List.prefix_rfl
  next =>
    split
    next => exact List.prefix_rfl
    next => exact List.prefix_append _ _

end Worker

end ChartManifests
