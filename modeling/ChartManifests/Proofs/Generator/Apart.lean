import ChartManifests.Proofs.Generator.Settling
/-!
Generators that share a host do not meet. Whatever is read, written or removed in a turn lies in a
directory that nobody else was given, so what a member sees of its turns is what it would see alone.
-/

namespace ChartManifests

namespace Company

variable {ι : Type} {host : Host} {start : World} {company : Company ι}

/-- Nobody was given what somebody else was given, and apart from the directories that are in use
the files are as they were when the company gathered. -/
structure Orderly (host : Host) (start : World) (company : Company ι) : Prop where
  settled : ∀ member, (company.workers member).Settled host start company.world.files
  apart : ∀ first second directory, directory ∈ (company.workers first).given →
    directory ∈ (company.workers second).given → first = second
  elsewhere : ∀ place, (∀ member config directory,
      (company.workers member).held? = some (config, directory) →
        ¬ directory.location <+: place) →
    company.world.files.standing? place = start.files.standing? place

theorem Orderly.gathered (operations : ι → List Operation) :
    (gathered operations start).Orderly host start := by
  refine ⟨fun member => .of_released ?_ nofun rfl, nofun, fun _ _ => rfl⟩
  rintro _ ⟨⟩
  exact ⟨.unconfigured, rfl⟩

theorem Orderly.eq_of_prefix (orderly : company.Orderly host start) {first second : ι}
    {one other : WorkingDirectory} {place : Location}
    (firstGiven : one ∈ (company.workers first).given) (inOne : one.location <+: place)
    (secondGiven : other ∈ (company.workers second).given) (inOther : other.location <+: place) :
    one = other ∧ first = second := by
  obtain ⟨number, -, rfl⟩ := (orderly.settled first).numbered one firstGiven
  obtain ⟨another, -, rfl⟩ := (orderly.settled second).numbered other secondGiven
  have same := WorkingDirectory.eq_of_prefix inOne inOther
  exact ⟨same, orderly.apart first second _ firstGiven (same ▸ secondGiven)⟩

theorem Orderly.standing (orderly : company.Orderly host start) (fresh : host.MakesFresh start)
    {member : ι} {directory : WorkingDirectory}
    (given : directory ∈ (company.workers member).given) :
    company.world.files.standing? directory.location =
      if (company.workers member).held?.map Prod.snd = some directory then some .directory
      else none := by
  by_cases used : (company.workers member).held?.map Prod.snd = some directory
  · rw [if_pos used]
    obtain ⟨⟨config, own⟩, held, rfl⟩ := Option.map_eq_some_iff.mp used
    exact (orderly.settled member).standing config own held
  · obtain ⟨number, bound, numbered⟩ := (orderly.settled member).numbered directory given
    rw [if_neg used, orderly.elsewhere, numbered]
    · exact fresh.unmade number bound _ List.prefix_rfl
    · intro other config own held inside
      have owned := (orderly.settled other).given config own held
      obtain ⟨rfl, rfl⟩ := orderly.eq_of_prefix owned inside given List.prefix_rfl
      exact used (by rw [held]; rfl)

theorem Orderly.standing_alike {alone : Company ι} (orderly : alone.Orderly host start)
    (other : company.Orderly host start) (fresh : host.MakesFresh start) (member : ι)
    {directory : WorkingDirectory} (same : alone.workers member = company.workers member)
    (given : directory ∈ (alone.workers member).given) :
    alone.world.files.standing? directory.location =
      company.world.files.standing? directory.location := by
  rw [orderly.standing fresh given, other.standing fresh (same ▸ given), same]

section Turn

variable {member : ι} {turned : Worker} {after : World} {drawn : WorkingDirectory}

theorem Orderly.spares (orderly : company.Orderly host start)
    (tended : (company.workers member).Tended host start drawn turned company.world after)
    (new : ∀ other, drawn ∉ (company.workers other).given) {other : ι} (differs : other ≠ member)
    {config : Config} {directory : WorkingDirectory}
    (held : (company.workers other).held? = some (config, directory)) {place : Location}
    (inside : directory.location <+: place) :
    after.files.standing? place = company.world.files.standing? place := by
  have owned := (orderly.settled other).given config directory held
  have apart : ∀ own ∈ (company.workers member).given, ¬ own.location <+: place :=
    fun own present within => differs (orderly.eq_of_prefix owned inside present within).2
  apply tended.spares
  rintro config' own (before | behind)
  · exact apart own ((orderly.settled member).given config' own before)
  · have present := tended.settled.given config' own behind
    rcases tended.given_cases present with old | rfl
    · exact apart own old
    · intro within
      obtain ⟨number, -, numbered⟩ := tended.settled.numbered own present
      obtain ⟨another, -, rfl⟩ := (orderly.settled other).numbered directory owned
      rw [numbered] at within
      apply new other
      rw [numbered, WorkingDirectory.eq_of_prefix within inside]
      exact owned

variable [DecidableEq ι]

theorem Orderly.turn_settled (orderly : company.Orderly host start)
    (tended : (company.workers member).Tended host start drawn turned company.world after)
    (new : ∀ other, drawn ∉ (company.workers other).given) (other : ι) :
    (Function.update company.workers member turned other).Settled host start after.files := by
  by_cases same : other = member
  · subst same
    simpa only [Function.update_self] using tended.settled
  · simp only [Function.update_of_ne same]
    have settled := orderly.settled other
    refine ⟨settled.state, settled.numbered, settled.given, settled.housed, ?_, ?_⟩
    · intro config directory held
      rw [orderly.spares tended new same held List.prefix_rfl]
      exact settled.standing config directory held
    · intro config directory held waits place inside differs
      rw [orderly.spares tended new same held inside]
      exact settled.empty config directory held waits place inside differs

theorem Orderly.turn_apart (orderly : company.Orderly host start)
    (tended : (company.workers member).Tended host start drawn turned company.world after)
    (new : ∀ other, drawn ∉ (company.workers other).given) {first second : ι}
    {directory : WorkingDirectory}
    (one : directory ∈ (Function.update company.workers member turned first).given)
    (two : directory ∈ (Function.update company.workers member turned second).given) :
    first = second := by
  have owner : ∀ other, other ≠ member → directory ∈ turned.given →
      directory ∉ (company.workers other).given := by
    intro other differs present owned
    rcases tended.given_cases present with old | rfl
    · exact differs (orderly.apart other member directory owned old)
    · exact new other owned
  by_cases same : first = member
  · by_cases also : second = member
    · exact same.trans also.symm
    · simp only [same, Function.update_self] at one
      simp only [Function.update_of_ne also] at two
      exact absurd two (owner second also one)
  · simp only [Function.update_of_ne same] at one
    by_cases also : second = member
    · simp only [also, Function.update_self] at two
      exact absurd one (owner first same two)
    · simp only [Function.update_of_ne also] at two
      exact orderly.apart first second directory one two

theorem Orderly.turn_elsewhere (orderly : company.Orderly host start)
    (fresh : host.MakesFresh start)
    (tended : (company.workers member).Tended host start drawn turned company.world after)
    {place : Location} (outside : ∀ other config directory,
      (Function.update company.workers member turned other).held? = some (config, directory) →
        ¬ directory.location <+: place) :
    after.files.standing? place = start.files.standing? place := by
  have released : ∀ config directory, turned.held? = some (config, directory) →
      ¬ directory.location <+: place := by
    intro config directory held
    exact outside member config directory (by simpa only [Function.update_self] using held)
  by_cases within : ∃ config directory,
      (company.workers member).held? = some (config, directory) ∧ directory.location <+: place
  · -- The member had its turn and holds that directory no more, so nothing is left there.
    obtain ⟨config, directory, held, inside⟩ := within
    obtain ⟨number, bound, rfl⟩ := (orderly.settled member).held_numbered held
    rw [tended.clears config _ held (fun other kept => released other _ kept inside) place inside]
    exact (fresh.unmade number bound place inside).symm
  · have left : ∀ config directory,
        (company.workers member).held? = some (config, directory) →
        ¬ directory.location <+: place :=
      fun config directory held inside => within ⟨config, directory, held, inside⟩
    rw [tended.spares place ?_, orderly.elsewhere]
    · intro other config directory held
      by_cases same : other = member
      · subst same
        exact left config directory held
      · exact outside other config directory (by simpa only [Function.update_of_ne same])
    · rintro config directory (held | held)
      · exact left config directory held
      · exact released config directory held

theorem Orderly.turn (orderly : company.Orderly host start) (fresh : host.MakesFresh start)
    (tended : (company.workers member).Tended host start drawn turned company.world after)
    (new : ∀ other, drawn ∉ (company.workers other).given) :
    Company.Orderly host start ⟨Function.update company.workers member turned, after⟩ where
  settled := orderly.turn_settled tended new
  apart _ _ _ one two := orderly.turn_apart tended new one two
  elsewhere _ outside := orderly.turn_elsewhere fresh tended outside

end Turn

theorem Orderly.around (orderly : company.Orderly host start) (fresh : host.MakesFresh start)
    {place : Location} (outer : place <+: host.temporary) :
    company.world.files.standing? place = some .directory := by
  rw [orderly.elsewhere]
  · exact fresh.around place outer
  · intro member config directory held inside
    obtain ⟨number, -, rfl⟩ := (orderly.settled member).held_numbered held
    have short := (inside.trans outer).length_le
    simp only [WorkingDirectory.numbered, List.length_append, List.length_singleton] at short
    omega

theorem Orderly.free (orderly : company.Orderly host start) (fresh : host.MakesFresh start)
    {number : Nat} (bound : start.directories ≤ number)
    (new : ∀ member, WorkingDirectory.numbered host number ∉ (company.workers member).given)
    (place : Location) (inside : (WorkingDirectory.numbered host number).location <+: place) :
    company.world.files.standing? place = none := by
  rw [orderly.elsewhere]
  · exact fresh.unmade number bound place inside
  · intro member config directory held within
    have present := (orderly.settled member).given config directory held
    obtain ⟨other, -, rfl⟩ := (orderly.settled member).numbered directory present
    apply new member
    rw [WorkingDirectory.eq_of_prefix inside within]
    exact present

theorem Orderly.link (orderly : company.Orderly host start) {place : Location} {target : String}
    (waiting : ∀ member config directory,
      (company.workers member).held? = some (config, directory) → (company.workers member).Waiting)
    (linked : company.world.files.standing? place = some (.link target)) :
    start.files.standing? place = some (.link target) := by
  rw [← orderly.elsewhere]
  · exact linked
  · intro member config directory held inside
    have settled := orderly.settled member
    by_cases itself : place = directory.location
    · rw [itself, settled.standing config directory held] at linked
      cases linked
    · rw [settled.empty config directory held (waiting member config directory held) place inside
        itself] at linked
      cases linked

theorem Orderly.sheltered {alone : Company ι} (orderly : company.Orderly host start)
    (other : alone.Orderly host start) (fresh : host.MakesFresh start)
    (waiting : ∀ member config directory,
      (alone.workers member).held? = some (config, directory) → (alone.workers member).Waiting)
    {config : Config} (sheltered : config.Sheltered company.world.files) :
    config.Sheltered alone.world.files := by
  intro home place own placed
  obtain ⟨within, way⟩ := sheltered home place own placed
  refine ⟨within, way.imp_right fun unlinked front begins named target linked => ?_⟩
  have before := other.link waiting linked
  apply unlinked front begins named target
  rw [orderly.elsewhere]
  · exact before
  · intro member config directory held inside
    obtain ⟨number, bound, rfl⟩ := (orderly.settled member).held_numbered held
    rw [fresh.unmade number bound _ inside] at before
    cases before

/-- A company on a host that has made every directory that was given, and a new one for each. -/
structure Regular (host : Host) (start : World) (company : Company ι) : Prop where
  orderly : company.Orderly host start
  bound : start.directories ≤ company.world.directories
  counted : ∀ member, ∀ directory ∈ (company.workers member).given, ∃ number,
    start.directories ≤ number ∧ number < company.world.directories ∧
      directory = .numbered host number
  unset : ∀ member raw, .configure raw ∈ (company.workers member).operations →
    ∀ read, Config.readNamed raw = .ok read → nonEmpty? read.chartHome = none

theorem Regular.new (regular : company.Regular host start) (fresh : host.MakesFresh start)
    (member : ι) : WorkingDirectory.numbered host company.world.directories ∉
      (company.workers member).given := by
  intro present
  obtain ⟨number, least, below, same⟩ := regular.counted member _ present
  have names : WorkingDirectory.name host company.world.directories =
      WorkingDirectory.name host number := by
    have locations := congrArg WorkingDirectory.location same
    exact List.singleton_inj.mp (List.append_cancel_left locations)
  have characters := congrArg String.toList names
  rw [WorkingDirectory.name_toList, WorkingDirectory.name_toList] at characters
  have made := String.toList_inj.mp (List.append_cancel_left characters)
  exact Nat.ne_of_gt below (fresh.distinct _ _ regular.bound least made)

theorem Regular.gathered {operations : ι → List Operation}
    (unset : ∀ member raw, .configure raw ∈ operations member →
      ∀ read, Config.readNamed raw = .ok read → nonEmpty? read.chartHome = none) :
    (Company.gathered operations start).Regular host start :=
  ⟨.gathered operations, Nat.le_refl _, nofun, unset⟩

theorem Regular.settles {runners : ι → Runner} {member : ι} (regular : company.Regular host start)
    (fresh : host.MakesFresh start)
    (obedient : (runners member).Obedient host) :
    Worker.Settles host start (.numbered host company.world.directories) (runners member)
      (company.workers member) :=
  Worker.settles fresh.plain obedient _ (regular.unset member) rfl regular.bound
    (regular.new fresh member)

def Shelters (company : Company ι) (member : ι) : Prop :=
  ∀ run, (company.workers member).engagement = .running run → run.stage = .fetching →
    run.config.Sheltered company.world.files

instance (company : Company ι) (member : ι) : Decidable (company.Shelters member) :=
  match engaged : (company.workers member).engagement with
  | .running run =>
    decidable_of_iff (run.stage = .fetching → run.config.Sheltered company.world.files)
      (by simp [Shelters, engaged])
  | .idle _ => .isTrue (by simp [Shelters, engaged])

theorem Orderly.ready {member : ι} (orderly : company.Orderly host start)
    (fresh : host.MakesFresh start) (sheltered : company.Shelters member) :
    (company.workers member).Ready host start company.world :=
  ⟨orderly.settled member, fun _ outer => orderly.around fresh outer, sheltered⟩

section Turns

variable [DecidableEq ι] {runners : ι → Runner} {member : ι}

theorem Regular.turn {turned : Worker} {after : World} (regular : company.Regular host start)
    (fresh : host.MakesFresh start)
    (tended : (company.workers member).Tended host start
      (.numbered host company.world.directories) turned company.world after) :
    Company.Regular host start ⟨Function.update company.workers member turned, after⟩ := by
  have bound := regular.bound
  have later : company.world.directories ≤ after.directories := by
    rcases tended.draws with ⟨-, same⟩ | ⟨-, more⟩ <;> omega
  refine ⟨regular.orderly.turn fresh tended (regular.new fresh), Nat.le_trans bound later, ?_, ?_⟩
  · intro other directory present
    have old : ∀ worker, directory ∈ (company.workers worker).given → ∃ number,
        start.directories ≤ number ∧ number < after.directories ∧
          directory = .numbered host number := by
      intro worker given
      obtain ⟨number, least, below, same⟩ := regular.counted worker directory given
      exact ⟨number, least, Nat.lt_of_lt_of_le below later, same⟩
    by_cases own : other = member
    · simp only [own, Function.update_self] at present
      rcases tended.draws with ⟨same, -⟩ | ⟨more, counted⟩
      · exact old member (same ▸ present)
      · rw [more] at present
        rcases List.mem_append.mp present with given | only
        · exact old member given
        · exact ⟨_, bound, by rw [counted]; exact Nat.lt_succ_self _, List.mem_singleton.mp only⟩
    · simp only [Function.update_of_ne own] at present
      exact old other present
  · intro other raw planned
    by_cases own : other = member
    · simp only [own, Function.update_self] at planned
      exact regular.unset member raw (tended.operations planned)
    · simp only [Function.update_of_ne own] at planned
      exact regular.unset other raw planned

/-- A company and another one in which a member is alone, at the same point of its operations. -/
structure Alike (host : Host) (start : World) (member : ι) (company alone : Company ι) : Prop where
  regular : company.Regular host start
  orderly : alone.Orderly host start
  worker : alone.workers member = company.workers member
  others : ∀ other, other ≠ member → (alone.workers other).given = []
  drawn : alone.world.directories =
    start.directories + (alone.workers member).given.length

omit [DecidableEq ι] in
theorem Alike.gathered {operations : ι → List Operation}
    (unset : ∀ member raw, .configure raw ∈ operations member →
      ∀ read, Config.readNamed raw = .ok read → nonEmpty? read.chartHome = none) :
    Alike host start member (Company.gathered operations start)
      (Company.gathered operations start) :=
  ⟨.gathered unset, .gathered operations, rfl, fun _ _ => rfl, rfl⟩

variable {alone : Company ι} {names : Nat → String}

theorem Alike.other (alike : Alike host start member company alone) (fresh : host.MakesFresh start)
    {other : ι} (obedient : (runners other).Obedient host) (sheltered : company.Shelters other)
    (differs : other ≠ member) :
    Alike host start member (company.turn host runners other).2 alone := by
  obtain ⟨outcome, issued, turned, settles⟩ := alike.regular.settles fresh obedient
  have free := alike.regular.orderly.free fresh alike.regular.bound (alike.regular.new fresh)
  have willing := fresh.willing _ alike.regular.bound
  obtain ⟨after, acted, -, tended⟩ := settles host.temporaryNames company.world
    (alike.regular.orderly.ready fresh sheltered) fun _ => ⟨rfl, willing, free⟩
  change Worker.act host _ _ _ = _ at acted
  refine ⟨?_, alike.orderly, ?_, alike.others, alike.drawn⟩
  · simp only [turn, acted]
    exact alike.regular.turn fresh tended
  · simp only [turn, acted, Function.update_of_ne differs.symm]
    exact alike.worker

theorem Alike.new (alike : Alike host start member company alone) (fresh : host.MakesFresh start)
    (other : ι) : .numbered host company.world.directories ∉ (alone.workers other).given := by
  by_cases same : other = member
  · rw [same, alike.worker]
    exact alike.regular.new fresh member
  · rw [alike.others other same]
    exact List.not_mem_nil

theorem Alike.shelters (alike : Alike host start member company alone)
    (fresh : host.MakesFresh start) (sheltered : company.Shelters member) :
    alone.Shelters member := by
  intro run engaged fetches
  have own := sheltered run (alike.worker ▸ engaged) fetches
  refine alike.regular.orderly.sheltered alike.orderly fresh ?_ own
  intro other config directory held
  by_cases same : other = member
  · exact Worker.waiting_of_running (same ▸ engaged) (by rw [fetches]; decide)
  · have nothing := (alike.orderly.settled other).given config directory held
    rw [alike.others other same] at nothing
    cases nothing

theorem Alike.own (alike : Alike host start member company alone) (fresh : host.MakesFresh start)
    (obedient : (runners member).Obedient host) (sheltered : company.Shelters member)
    (same : ∀ directory, ((company.turn host runners member).2.workers member).given[
        (company.workers member).given.length]? = some directory →
      .numbered (host.naming names) alone.world.directories = directory) :
    (alone.turn (host.naming names) runners member).1 = (company.turn host runners member).1 ∧
      Alike host start member (company.turn host runners member).2
        (alone.turn (host.naming names) runners member).2 := by
  obtain ⟨outcome, issued, turned, settles⟩ := alike.regular.settles fresh obedient
  have free := alike.regular.orderly.free fresh alike.regular.bound (alike.regular.new fresh)
  have willing := fresh.willing _ alike.regular.bound
  obtain ⟨after, acted, commands, tended⟩ := settles host.temporaryNames company.world
    (alike.regular.orderly.ready fresh sheltered) fun _ => ⟨rfl, willing, free⟩
  change Worker.act host _ _ _ = _ at acted
  have ready := alike.orderly.ready fresh (alike.shelters fresh sheltered)
  rw [alike.worker] at ready
  -- A turn that gives the member a directory gives it the one that it has alone at this point.
  have offers : turned.given ≠ (company.workers member).given →
      Worker.Offers host names (.numbered host company.world.directories) alone.world := by
    intro more
    refine ⟨?_, ?_, alike.orderly.free fresh alike.regular.bound (alike.new fresh)⟩
    swap
    · exact fresh.willing _ (alike.drawn ▸ Nat.le_add_right _ _)
    have given := (tended.draws.resolve_left fun kept => more kept.1).1
    refine (same _ ?_).symm
    simp only [turn, acted, Function.update_self, given]
    exact List.getElem?_concat_length
  obtain ⟨last, actedAlone, commandsAlone, tendedAlone⟩ := settles names alone.world ready offers
  have next := alike.regular.turn fresh tended
  have nextAlone : Company.Orderly host start ⟨Function.update alone.workers member turned, last⟩ :=
    alike.orderly.turn fresh (alike.worker ▸ tendedAlone) (alike.new fresh)
  rw [← alike.worker] at actedAlone
  simp only [turn, acted, actedAlone]
  refine ⟨?_, next, nextAlone, ?_, ?_, ?_⟩
  · rw [commands, commandsAlone, List.drop_left, List.drop_left]
    congr 1
    apply List.map_congr_left
    intro directory present
    refine nextAlone.standing_alike next.orderly fresh member ?_ ?_
    · simp only [Function.update_self]
    · simpa only [Function.update_self] using present
  · simp only [Function.update_self]
  · intro other differs
    simp only [Function.update_of_ne differs]
    exact alike.others other differs
  · have counted := alike.drawn
    rw [alike.worker] at counted
    simp only [Function.update_self]
    rcases tendedAlone.draws with ⟨kept, directories⟩ | ⟨more, directories⟩
    · rw [kept, directories, counted]
    · rw [more, directories, counted, List.length_append, List.length_singleton, Nat.add_assoc]

theorem given_turn (company : Company ι) (other : ι) :
    (company.workers member).given <+:
      ((company.turn host runners other).2.workers member).given := by
  by_cases same : member = other
  · subst same
    simp only [turn, Function.update_self]
    exact Worker.given_act host _ _ _
  · simp only [turn, Function.update_of_ne same]
    exact List.prefix_rfl

theorem given_behind (schedule : List ι) : ∀ company : Company ι,
    (company.workers member).given <+:
      ((company.behind host runners schedule).workers member).given := by
  induction schedule with
  | nil => exact fun _ => List.prefix_rfl
  | cons other rest ih => exact fun company => (given_turn company other).trans (ih _)

theorem Alike.sights (fresh : host.MakesFresh start)
    (obedient : ∀ other, (runners other).Obedient host) {schedule : List ι} :
    ∀ {company alone : Company ι}, Alike host start member company alone →
      (∀ done other, done <+: schedule → (company.behind host runners done).Shelters other) →
      (∀ (number : Nat) directory,
        ((company.behind host runners schedule).workers member).given[number]? = some directory →
          .numbered (host.naming names) (start.directories + number) = directory) →
      (company.sights host runners schedule).filter (fun seen => seen.1 = member) =
        alone.sights (host.naming names) runners (schedule.filter (· = member)) := by
  -- The two companies stay alike: turns of others leave the one alone as it is.
  induction schedule with
  | nil => exact fun _ _ _ => rfl
  | cons other rest ih =>
    intro company alone alike sheltered same
    have first := sheltered [] other (List.nil_prefix)
    have later : ∀ done another, done <+: rest →
        ((company.turn host runners other).2.behind host runners done).Shelters another :=
      fun done another begins =>
        sheltered (other :: done) another (List.cons_prefix_cons.mpr ⟨rfl, begins⟩)
    by_cases own : other = member
    · subst own
      have drawn : ∀ directory, ((company.turn host runners other).2.workers other).given[
          (company.workers other).given.length]? = some directory →
          .numbered (host.naming names) alone.world.directories = directory := by
        intro directory found
        obtain ⟨more, final⟩ := given_behind rest (company.turn host runners other).2
        rw [alike.drawn, alike.worker]
        apply same
        change ((Company.behind host runners _ rest).workers other).given[_]? = _
        rw [← final, List.getElem?_append_left (List.getElem?_eq_some_iff.mp found).1]
        exact found
      obtain ⟨sight, alike'⟩ := alike.own fresh (obedient other) first drawn
      simp only [Company.sights, List.filter_cons, decide_true, if_true, sight]
      rw [ih alike' later same]
    · have alike' := alike.other fresh (obedient other) first own
      simp only [Company.sights, List.filter_cons, own, decide_false, Bool.false_eq_true, if_false]
      exact ih alike' later same

/-- Generators that share a host do not collide. Whatever the schedule, a member sees the same of
its turns as if it were alone on a host that makes up the same names for its directories: the same
outcomes, the same commands, and the same of its directories. -/
theorem sights_alone {operations : ι → List Operation} {schedule : List ι} (member : ι)
    (fresh : host.MakesFresh start) (obedient : ∀ other, (runners other).Obedient host)
    (unset : ∀ other raw, .configure raw ∈ operations other →
      ∀ read, Config.readNamed raw = .ok read → nonEmpty? read.chartHome = none)
    (sheltered : ∀ done other, done <+: schedule →
      ((gathered operations start).behind host runners done).Shelters other)
    (named : ∀ (number : Nat) directory,
      (((gathered operations start).behind host runners schedule).workers member).given[number]? =
        some directory →
      WorkingDirectory.numbered (host.naming names) (start.directories + number) = directory) :
    ((gathered operations start).sights host runners schedule).filter
        (fun seen => seen.1 = member) =
      (gathered operations start).sights (host.naming names) runners
        (schedule.filter (· = member)) :=
  (Alike.gathered unset).sights fresh obedient sheltered named

end Turns

end Company

/-- A runner that answers everything with a version, and makes a directory for a chart where it is
told to unpack one. -/
def unpacker (host : Host) (chart : String) : Runner := fun _ command files =>
  ⟨.ok (Text.Utf8.encode "v3.14.2"),
    match command.untarDirectory? with
    | none => files
    | some home =>
      match home.external with
      | .error _ => files
      | .ok name =>
        match files.locate host.current name with
        | .error _ => files
        | .ok outer => files.add (outer ++ [chart]) .directory WorkingDirectory.ownMode, []⟩

theorem unpacker_obedient (host : Host) (chart : String) : (unpacker host chart).Obedient host := by
  refine ⟨fun _ _ _ _ _ => rfl, ?_⟩
  intro command history files place changed
  simp only [unpacker] at changed
  split at changed
  next => exact absurd rfl changed
  next home named =>
    split at changed
    next => exact absurd rfl changed
    next name formed =>
      split at changed
      next => exact absurd rfl changed
      next outer led =>
        refine ⟨home, outer, named, ⟨name, formed, led⟩, ?_⟩
        rw [Files.standing?_add] at changed
        split at changed
        next same => exact same ▸ List.prefix_append _ _
        next => exact absurd rfl changed

namespace Company

theorem sights_alone_of_two :
    let host : Host := {
      current := []
      environment := []
      temporaryNames := fun number => String.ofList (List.replicate number 'a') }
    let start : World :=
      ⟨(Files.empty.add [] .directory 0o755).add ["tmp"] .directory 0o777, 0, [], []⟩
    let raw : RawConfig :=
      .document (.map none [(.text "chartName", .text "../chart/./nginx")])
    let operations : Bool → List Operation := fun _ => [.configure raw, .generate]
    let runners : Bool → Runner := fun _ => unpacker host "nginx"
    let schedule := [true, false, true, false, false, true, true, false, false, true]
    let names := fun number => host.temporaryNames (number + 1)
    host.MakesFresh start ∧ (∀ other, (runners other).Obedient host) ∧
    (∀ other raw, .configure raw ∈ operations other →
      ∀ read, Config.readNamed raw = .ok read → nonEmpty? read.chartHome = none) ∧
    (∀ done other, done <+: schedule →
      ((gathered operations start).behind host runners done).Shelters other) ∧
    (∀ (number : Nat) directory,
      (((gathered operations start).behind host runners schedule).workers false).given[number]? =
        some directory →
      WorkingDirectory.numbered (host.naming names) (start.directories + number) = directory) ∧
    ((gathered operations start).sights host runners schedule).filter
        (fun seen => seen.1 = false) =
      (gathered operations start).sights (host.naming names) runners
        (schedule.filter (· = false)) := by
  intro host start raw operations runners schedule names
  obtain ⟨given, shelters⟩ :
      (((gathered operations start).behind host runners schedule).workers false).given =
        [WorkingDirectory.numbered host 1] ∧
      ∀ done ∈ schedule.inits, ∀ other,
        ((gathered operations start).behind host runners done).Shelters other := by
    decide +kernel +revert
  have made : ∀ place, start.files.standing? place =
      if place = ["tmp"] then some .directory
      else if place = [] then some .directory else none := by
    intro place
    rw [Files.standing?_add, Files.standing?_add]
    rfl
  have fresh : host.MakesFresh start := by
    refine ⟨?_, fun _ _ => rfl, ?_, ?_, ?_⟩
    · intro number character present
      rw [String.toList_ofList] at present
      rw [List.eq_of_mem_replicate present]
      exact .inl (by decide)
    · intro first second _ _ same
      have lengths := congrArg List.length (String.ofList_injective same)
      simpa using lengths
    · intro number _ place inside
      have long := inside.length_le
      have other : place ≠ ["tmp"] := by
        rintro rfl
        exact Nat.not_succ_le_self 1 long
      have nowhere : place ≠ [] := by
        rintro rfl
        exact Nat.not_succ_le_zero 1 long
      rw [made, if_neg other, if_neg nowhere]
    · intro place outer
      have either : place = ["tmp"] ∨ place = [] := by
        change place <+: ["tmp"] at outer
        simpa [List.prefix_cons_iff, or_comm] using outer
      rw [made]
      rcases either with rfl | rfl <;> rfl
  have obedient : ∀ other, (runners other).Obedient host := fun _ => unpacker_obedient host "nginx"
  have unset : ∀ other raw, .configure raw ∈ operations other →
      ∀ read, Config.readNamed raw = .ok read → nonEmpty? read.chartHome = none := by
    intro other planned present read accepted
    obtain ⟨config, own, bare⟩ : ∃ config, Config.readNamed raw = .ok config ∧
        nonEmpty? config.chartHome = none := ⟨_, rfl, rfl⟩
    have same : planned = raw := by
      simpa [operations] using present
    subst same
    cases own.symm.trans accepted
    exact bare
  have sheltered : ∀ done other, done <+: schedule →
      ((gathered operations start).behind host runners done).Shelters other :=
    fun done other begins => shelters done ((List.mem_inits _ _).mpr begins) other
  have named : ∀ (number : Nat) directory,
      (((gathered operations start).behind host runners schedule).workers false).given[number]? =
        some directory →
      WorkingDirectory.numbered (host.naming names) (start.directories + number) = directory := by
    intro number directory found
    rw [given] at found
    cases number with
    | zero => exact Option.some.inj found
    | succ number => cases found
  exact ⟨fresh, obedient, unset, sheltered, named,
    sights_alone false fresh obedient unset sheltered named⟩

end Company

end ChartManifests
