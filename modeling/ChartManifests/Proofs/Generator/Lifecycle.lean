import ChartManifests.Proofs.Generator.Course
import ChartManifests.Proofs.Host.Places
import ChartManifests.Proofs.Resolve
import Mathlib.Logic.ExistsUnique
/-!
The life of a generator. What it holds makes it unconfigured, ready or spent, and there is a working
directory exactly while it is ready. This holds after every run of operations, whatever the runner
does in between and whether directories can be made or not, as long as nobody else makes, replaces
or removes a working directory.
-/

namespace ChartManifests

inductive Operation
  | configure (raw : RawConfig)
  | generate
  | objects
  | config

inductive Outcome
  | configured (result : Except Failure Unit)
  | generated (result : Except Failure Text.Bytes)
  | listed (result : Except Failure (List Value))
  | told (result : Except Failure Config)

structure Session where
  generator : Generator
  world : World

namespace Session

def perform (host : Host) (runner : Runner) (session : Session) : Operation → Outcome × Session
  | .configure raw =>
    let reply := session.generator.configure host raw session.world
    (.configured reply.result, ⟨reply.generator, reply.world⟩)
  | .generate =>
    let reply := session.generator.generate host runner session.world
    (.generated reply.result, ⟨reply.generator, reply.world⟩)
  | .objects =>
    let reply := session.generator.objects host runner session.world
    (.listed reply.result, ⟨reply.generator, reply.world⟩)
  | .config => (.told session.generator.config, session)

def turns (runner : Runner) (before after : Session) : List Turn :=
  runner.turns before.world.commands before.world.files
    (after.world.commands.drop before.world.commands.length)

end Session

/-- The states of a generator: without a configuration, with one and a directory for the run, or with
one whose run is over. -/
inductive GeneratorState
  | unconfigured
  | ready (config : Config) (directory : WorkingDirectory)
  | spent (config : Config)

def GeneratorState.fields : GeneratorState → Generator
  | unconfigured => ⟨none, none⟩
  | ready config directory => ⟨some config, some directory⟩
  | spent config => ⟨some config, none⟩

/-- Two trees hold the same in the places of the working directories from a number on. -/
def Files.SameDirectories (host : Host) (first : Nat) (before after : Files) : Prop :=
  ∀ number, first ≤ number →
    after.standing? (WorkingDirectory.numbered host number).location =
      before.standing? (WorkingDirectory.numbered host number).location

/-- The sessions that a run of operations can lead to. Commands, and whatever else happens on the
host meanwhile, leave the working directories themselves alone. -/
inductive Reachable (host : Host) (runner : Runner) (start : World) : Session → Prop
  | begun : Reachable host runner start ⟨.unconfigured, start⟩
  | performed {session : Session} (operation : Operation) :
      Reachable host runner start session →
      (∀ turn ∈ session.turns runner (session.perform host runner operation).2,
        turn.files.SameDirectories host start.directories (runner.answer turn).files) →
      Reachable host runner start (session.perform host runner operation).2
  | elsewhere {session : Session} (files : Files) :
      Reachable host runner start session →
      session.world.files.SameDirectories host start.directories files →
      Reachable host runner start ⟨session.generator, { session.world with files }⟩

inductive Lawful (host : Host) : Session → Operation → Outcome → Session → Prop
  | configured {before : Session} {raw : RawConfig} {config : Config}
      {directory : WorkingDirectory} {after : World} :
      config.Completes raw directory.path →
      (before.generator.discardDirectory before.world).files.standing? directory.location = none →
      after.files.standing? directory.location = some .directory →
      Lawful host before (.configure raw) (.configured (.ok ())) ⟨.ready config directory, after⟩
  | misconfigured {before : Session} {raw : RawConfig} {failure : Failure} {after : World} :
      Config.readNamed raw = .error failure →
      Lawful host before (.configure raw) (.configured (.error failure)) ⟨.unconfigured, after⟩
  | refused {before : Session} {raw : RawConfig} {given : Config} {fault : FileFault} {name : Text}
      {after : World} :
      Config.readNamed raw = .ok given →
      WorkingDirectory.fault? host (before.generator.discardDirectory before.world) = some fault →
      Lawful host before (.configure raw) (.configured (.error (.noDirectory fault name)))
        ⟨.unconfigured, after⟩
  | generated {config : Config} {directory : WorkingDirectory} {before after : World}
      {result : Except Failure Text.Bytes} :
      Lawful host ⟨.ready config directory, before⟩ .generate (.generated result)
        ⟨.spent config, after⟩
  | listed {config : Config} {directory : WorkingDirectory} {before after : World}
      {result : Except Failure (List Value)} :
      Lawful host ⟨.ready config directory, before⟩ .objects (.listed result)
        ⟨.spent config, after⟩
  | notGenerated {before : Session} {failure : Failure} :
      before.generator.directory? = none → failure.isInput = true →
      Lawful host before .generate (.generated (.error failure)) before
  | notListed {before : Session} {failure : Failure} :
      before.generator.directory? = none → failure.isInput = true →
      Lawful host before .objects (.listed (.error failure)) before
  | toldReady {config : Config} {directory : WorkingDirectory} {world : World} :
      Lawful host ⟨.ready config directory, world⟩ .config (.told (.ok config))
        ⟨.ready config directory, world⟩
  | toldSpent {config : Config} {world : World} :
      Lawful host ⟨.spent config, world⟩ .config (.told (.ok config)) ⟨.spent config, world⟩
  | untold {world : World} {failure : Failure} :
      failure.isInput = true →
      Lawful host ⟨.unconfigured, world⟩ .config (.told (.error failure)) ⟨.unconfigured, world⟩

/-- A generator is in exactly one of its states, and of the working directories from a number on there
is none but that of a generator that is ready, and there is that one. -/
structure Tidy (host : Host) (first : Nat) (session : Session) : Prop where
  state : ∃! state : GeneratorState, session.generator = state.fields
  counted : first ≤ session.world.directories
  numbered : ∀ directory, session.generator.directory? = some directory →
    ∃ number, first ≤ number ∧ directory = WorkingDirectory.numbered host number
  standing : ∀ number, first ≤ number →
    session.world.files.standing? (WorkingDirectory.numbered host number).location =
      if session.generator.directory? = some (WorkingDirectory.numbered host number)
      then some .directory else none

theorem GeneratorState.existsUnique (state : GeneratorState) :
    ∃! other : GeneratorState, state.fields = other.fields := by
  refine ⟨state, rfl, ?_⟩
  intro other same
  cases state <;> cases other <;> cases same <;> rfl

theorem WorkingDirectory.eq_of_location {first second : WorkingDirectory}
    (same : first.location = second.location) : first = second := by
  cases first
  cases second
  exact congrArg WorkingDirectory.mk same

theorem WorkingDirectory.eq_of_prefix {host : Host} {first second : Nat} {place : Location}
    (one : (numbered host first).location <+: place)
    (other : (numbered host second).location <+: place) :
    numbered host first = numbered host second := by
  have length : ∀ number, (numbered host number).location.length = host.temporary.length + 1 := by
    simp [numbered]
  have shorter := List.prefix_of_prefix_length_le one other (by simp only [length, Nat.le_refl])
  exact eq_of_location (shorter.eq_of_length (by rw [length, length]))

variable {host : Host} {runner : Runner} {first : Nat}

theorem removeDirectory_clears {files : Files} {directory number : Nat}
    (standing : files.standing? (WorkingDirectory.numbered host number).location =
      if some (WorkingDirectory.numbered host directory) =
        some (WorkingDirectory.numbered host number) then some .directory else none) :
    (files.removeDirectory (WorkingDirectory.numbered host directory).location).standing?
      (WorkingDirectory.numbered host number).location = none := by
  rw [Files.standing?_removeDirectory]
  by_cases same : WorkingDirectory.numbered host directory = WorkingDirectory.numbered host number
  · rw [same] at standing ⊢
    have there : files.isDirectory (WorkingDirectory.numbered host number).location = true := by
      rw [Files.isDirectory_iff, standing, if_pos rfl]
    rw [if_pos ⟨there, List.prefix_rfl⟩]
  · have different : ¬ some (WorkingDirectory.numbered host directory) =
        some (WorkingDirectory.numbered host number) := fun equal => same (Option.some.inj equal)
    rw [if_neg different] at standing
    simp [standing]

theorem Tidy.discard {session : Session} (tidy : Tidy host first session) {number : Nat}
    (bound : first ≤ number) :
    (session.generator.discardDirectory session.world).files.standing?
      (WorkingDirectory.numbered host number).location = none := by
  have standing := tidy.standing number bound
  cases held : session.generator.directory? with
  | none => simpa [Generator.discardDirectory, held] using standing
  | some directory =>
    obtain ⟨own, _, located⟩ := tidy.numbered directory held
    subst located
    rw [held] at standing
    rw [Generator.discardDirectory, held]
    exact removeDirectory_clears standing

theorem standing?_numbered_made (world : World) (number : Nat) :
    (WorkingDirectory.made host world).files.standing?
        (WorkingDirectory.numbered host number).location =
      if WorkingDirectory.numbered host world.directories = WorkingDirectory.numbered host number
      then some .directory
      else world.files.standing? (WorkingDirectory.numbered host number).location := by
  rw [WorkingDirectory.standing?_made]
  by_cases same :
      WorkingDirectory.numbered host world.directories = WorkingDirectory.numbered host number
  · rw [if_pos (by rw [same]), if_pos same]
  · rw [if_neg fun equal => same (WorkingDirectory.eq_of_location equal.symm), if_neg same]

theorem Tidy.configure {session : Session} (tidy : Tidy host first session) (raw : RawConfig) :
    Tidy host first (session.perform host runner (.configure raw)).2 := by
  have counted := tidy.counted
  have discarded := discardDirectory_directories session.generator session.world
  -- Whatever the reason, a generator that is not configured holds nothing.
  have dropped : ∀ world : World, first ≤ world.directories →
      world.files = (session.generator.discardDirectory session.world).files →
      Tidy host first ⟨.unconfigured, world⟩ := by
    intro world bound same
    refine ⟨GeneratorState.unconfigured.existsUnique, bound, by simp, ?_⟩
    intro number lower
    simpa [same] using tidy.discard lower
  obtain ⟨failure, _, refused⟩ | ⟨given, fault, _, _, refused⟩ | ⟨config, _, _, accepted⟩ :=
    configure_cases host raw session.generator session.world
  · simp only [Session.perform, refused]
    exact dropped _ (by rwa [discarded]) rfl
  · simp only [Session.perform, refused]
    refine dropped _ ?_ rfl
    change first ≤ (session.generator.discardDirectory session.world).directories + 1
    rw [discarded]
    omega
  · simp only [Session.perform, accepted]
    refine ⟨(GeneratorState.ready _ _).existsUnique, ?_, ?_, ?_⟩
    · change first ≤ (session.generator.discardDirectory session.world).directories + 1
      rw [discarded]
      omega
    · intro directory held
      cases held
      exact ⟨_, counted, rfl⟩
    · intro number bound
      rw [standing?_numbered_made, tidy.discard bound, discarded]
      simp

theorem Tidy.generate {session : Session} (tidy : Tidy host first session)
    (spared : ∀ turn ∈ session.turns runner (session.perform host runner .generate).2,
      turn.files.SameDirectories host first (runner.answer turn).files) :
    Tidy host first (session.perform host runner .generate).2 := by
  obtain ⟨generator, world⟩ := session
  obtain ⟨state, rfl : generator = state.fields, -⟩ := tidy.state
  cases state with
  | unconfigured => exact tidy
  | spent config => exact tidy
  | ready config directory =>
    obtain ⟨issued, result, after, generated, _, carried⟩ :=
      generate_ready host runner config directory world
    simp only [Session.perform, GeneratorState.fields, generated] at spared ⊢
    have commands : (directory.remove after).commands.drop world.commands.length = issued := by
      change after.commands.drop world.commands.length = issued
      rw [carried.commands, List.drop_left]
    rw [Session.turns, commands] at spared
    -- Every turn spares the directories, so the generator still removes the one that it made.
    have kept : world.files.SameDirectories host first after.files := by
      rw [carried.files]
      apply runner.leaves_induction
      · intro turn member same number bound
        exact (spared turn member number bound).trans (same number bound)
      · exact fun _ _ => rfl
    refine ⟨(GeneratorState.spent config).existsUnique, ?_, by simp, ?_⟩
    · change first ≤ after.directories
      rw [carried.directories]
      exact tidy.counted
    · intro number bound
      obtain ⟨own, _, located⟩ := tidy.numbered directory rfl
      subst located
      have standing := tidy.standing number bound
      rw [← kept number bound] at standing
      have gone := removeDirectory_clears standing
      simpa [WorkingDirectory.remove, World.record] using gone

theorem Reachable.tidy {start : World}
    (unmade : ∀ number, start.directories ≤ number →
      start.files.standing? (WorkingDirectory.numbered host number).location = none)
    {session : Session} (reached : Reachable host runner start session) :
    Tidy host start.directories session := by
  induction reached with
  | begun =>
    exact ⟨GeneratorState.unconfigured.existsUnique, Nat.le_refl _, by simp, by simpa⟩
  | performed operation _ spared tidy =>
    cases operation with
    | configure raw => exact tidy.configure raw
    | generate => exact tidy.generate spared
    | objects => exact tidy.generate spared
    | config => exact tidy
  | elsewhere files _ spared tidy =>
    refine ⟨tidy.state, tidy.counted, tidy.numbered, ?_⟩
    intro number bound
    exact (spared number bound).trans (tidy.standing number bound)

theorem lawful_configure {session : Session} (tidy : Tidy host first session) (raw : RawConfig) :
    Lawful host session (.configure raw) (session.perform host runner (.configure raw)).1
      (session.perform host runner (.configure raw)).2 := by
  obtain ⟨failure, unread, refused⟩ | ⟨given, fault, read, unable, refused⟩ |
      ⟨config, complete, _, accepted⟩ :=
    configure_cases host raw session.generator session.world
  · simp only [Session.perform, refused]
    exact .misconfigured unread
  · simp only [Session.perform, refused]
    exact .refused read unable
  · simp only [Session.perform, accepted]
    apply Lawful.configured complete
    · exact tidy.discard tidy.counted
    · rw [standing?_numbered_made, discardDirectory_directories, if_pos rfl]

section States

variable {state : GeneratorState} {world : World}

theorem lawful_generate : Lawful host ⟨state.fields, world⟩ .generate
    (Session.perform host runner ⟨state.fields, world⟩ .generate).1
    (Session.perform host runner ⟨state.fields, world⟩ .generate).2 := by
  cases state with
  | unconfigured => exact .notGenerated rfl rfl
  | spent config => exact .notGenerated rfl rfl
  | ready config directory =>
    obtain ⟨issued, result, after, generated, _, _⟩ :=
      generate_ready host runner config directory world
    simp only [Session.perform, GeneratorState.fields, generated]
    exact .generated

theorem lawful_objects : Lawful host ⟨state.fields, world⟩ .objects
    (Session.perform host runner ⟨state.fields, world⟩ .objects).1
    (Session.perform host runner ⟨state.fields, world⟩ .objects).2 := by
  cases state with
  | unconfigured => exact .notListed rfl rfl
  | spent config => exact .notListed rfl rfl
  | ready config directory =>
    obtain ⟨issued, result, after, generated, _, _⟩ :=
      generate_ready host runner config directory world
    simp only [Session.perform, Generator.objects, GeneratorState.fields, generated]
    exact .listed

theorem lawful_config : Lawful host ⟨state.fields, world⟩ .config
    (Session.perform host runner ⟨state.fields, world⟩ .config).1
    (Session.perform host runner ⟨state.fields, world⟩ .config).2 := by
  cases state with
  | unconfigured => exact .untold rfl
  | ready config directory => exact .toldReady
  | spent config => exact .toldSpent

end States

/-- In every session that can be reached the generator is in exactly one state, there is a working
directory exactly while it is ready, and every operation does what it may. -/
theorem lifecycle {start : World} {session : Session}
    (unmade : ∀ number, start.directories ≤ number →
      start.files.standing? (WorkingDirectory.numbered host number).location = none)
    (reached : Reachable host runner start session) :
    Tidy host start.directories session ∧ ∀ operation, Lawful host session operation
      (session.perform host runner operation).1 (session.perform host runner operation).2 := by
  have tidy := reached.tidy unmade
  refine ⟨tidy, ?_⟩
  intro operation
  obtain ⟨generator, world⟩ := session
  obtain ⟨state, rfl : generator = state.fields, -⟩ := tidy.state
  cases operation with
  | configure raw => exact lawful_configure tidy raw
  | generate => exact lawful_generate
  | objects => exact lawful_objects
  | config => exact lawful_config

theorem turns_configure (session : Session) (raw : RawConfig) :
    session.turns runner (session.perform host runner (.configure raw)).2 = [] := by
  have unchanged : (session.perform host runner (.configure raw)).2.world.commands =
      session.world.commands := by
    have discarded := discardDirectory_commands session.generator session.world
    obtain ⟨failure, _, refused⟩ | ⟨given, fault, _, _, refused⟩ | ⟨config, _, _, accepted⟩ :=
      configure_cases host raw session.generator session.world
    · simp only [Session.perform, refused]
      exact discarded
    · simp only [Session.perform, refused]
      exact discarded
    · simp only [Session.perform, accepted]
      exact discarded
  rw [Session.turns, unchanged, List.drop_length]
  rfl

theorem lifecycle_of_crash :
    let host : Host := { current := [], environment := [], temporaryNames := toString }
    let runner : Runner := fun _ _ files =>
      ⟨.error (.crashed "unexpected"), files.add ["calls"] (.file []) 0o644, []⟩
    let raw : RawConfig := .document (.map none [(.text "chartName", .text "nginx")])
    let files := Files.empty.add ["tmp"] .directory 0o777
    let begun : Session := ⟨.unconfigured, ⟨files, 0, [], []⟩⟩
    let ready := (begun.perform host runner (.configure raw)).2
    let spent := (ready.perform host runner .generate).2
    (∃ config directory, ready.generator = .ready config directory) ∧
    (∃ config, spent.generator = .spent config) ∧
    (∀ number, 0 ≤ number →
      files.standing? (WorkingDirectory.numbered host number).location = none) ∧
    Reachable host runner ⟨files, 0, [], []⟩ spent ∧
    Tidy host 0 spent ∧ ∀ operation, Lawful host spent operation
      (spent.perform host runner operation).1 (spent.perform host runner operation).2 := by
  intro host runner raw files begun ready spent
  have unmade : ∀ number, 0 ≤ number →
      files.standing? (WorkingDirectory.numbered host number).location = none := by
    intro number _
    rw [Files.standing?_add]
    exact if_neg (by simp [WorkingDirectory.numbered, host])
  have reached : Reachable host runner ⟨files, 0, [], []⟩ spent := by
    apply Reachable.performed .generate
    · apply Reachable.performed (.configure raw) .begun
      rw [turns_configure]
      simp
    · intro turn _ number _
      rw [Runner.answer, Files.standing?_add]
      simp [WorkingDirectory.numbered, host]
  exact ⟨⟨_, _, rfl⟩, ⟨_, rfl⟩, unmade, reached, lifecycle unmade reached⟩

end ChartManifests
