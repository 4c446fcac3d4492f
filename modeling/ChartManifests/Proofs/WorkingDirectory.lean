import ChartManifests.Proofs.Generator.Lifecycle
import Mathlib.Data.List.Basic
import Mathlib.Data.List.Induction
import Mathlib.Logic.Function.Basic
/-!
Working directories beside one another. They are made, used and removed in any order, blocks that
use them lie in one another, and any of them may fail. What happens then is one thing after the
other, and a directory is there from when it is made until it is first removed. What is done to one
of them does not show in another one, nor anywhere else.
-/

namespace ChartManifests

/-- What is done with working directories. A block that uses one may fail at its end. -/
inductive DirectoryStep
  | create
  | cleanup (number : Nat)
  | within (number : Nat) (body : List DirectoryStep) (raises : Option Failure)
  | elsewhere (change : Files → Files)

/-- What can happen to working directories. One that is refused has a number all the same. -/
inductive Happening
  | made
  | refused
  | removed (number : Nat)
  | changed (change : Files → Files)

namespace Happening

def isAsked : Happening → Bool
  | made => true
  | refused => true
  | _ => false

def after (host : Host) (world : World) : Happening → World
  | made => WorkingDirectory.made host world
  | refused => WorkingDirectory.unmade world
  | removed number => (WorkingDirectory.numbered host number).remove world
  | changed change => { world with files := change world.files }

def afterAll (host : Host) (world : World) (happened : List Happening) : World :=
  happened.foldl (after host) world

@[simp] theorem afterAll_nil (host : Host) (world : World) : afterAll host world [] = world := rfl

@[simp] theorem afterAll_append (host : Host) (world : World) (first next : List Happening) :
    afterAll host world (first ++ next) = afterAll host (afterAll host world first) next :=
  List.foldl_append

@[simp] theorem afterAll_singleton (host : Host) (world : World) (happening : Happening) :
    afterAll host world [happening] = happening.after host world := rfl

end Happening

open Happening

def raising : Option Failure → Except Failure Unit
  | some failure => .error failure
  | none => .ok ()

mutual

def DirectoryStep.run (host : Host) : DirectoryStep → Action Unit
  | .create => discard (WorkingDirectory.create host)
  | .cleanup number => (WorkingDirectory.numbered host number).cleanup
  | .within number body raises =>
    (WorkingDirectory.numbered host number).within do
      runBody host body
      Action.lift (raising raises)
  | .elsewhere change => .of fun world => (.ok (), { world with files := change world.files })

def runBody (host : Host) : List DirectoryStep → Action Unit
  | [] => pure ()
  | step :: rest => do
    step.run host
    runBody host rest

end

mutual

def DirectoryStep.goes (host : Host) : DirectoryStep → World → List Happening × Option Failure
  | .create, world =>
    match WorkingDirectory.fault? host world with
    | none => ([.made], none)
    | some fault =>
      let name := (WorkingDirectory.numbered host world.directories).path.text
      ([.refused], some (.noDirectory fault name))
  | .cleanup number, _ => ([.removed number], none)
  | .within number body raises, world =>
    ((bodyGoes host body world).1 ++ [.removed number], (bodyGoes host body world).2.or raises)
  | .elsewhere change, _ => ([.changed change], none)

def bodyGoes (host : Host) : List DirectoryStep → World → List Happening × Option Failure
  | [], _ => ([], none)
  | step :: rest, world =>
    match step.goes host world with
    | (happened, some failure) => (happened, some failure)
    | (happened, none) =>
      let others := bodyGoes host rest (afterAll host world happened)
      (happened ++ others.1, others.2)

end

/-- What happens in some steps, each of which is taken whether or not those before it failed. -/
def stepsGo (host : Host) : List DirectoryStep → World → List Happening
  | [], _ => []
  | step :: rest, world =>
    let happened := (step.goes host world).1
    happened ++ stepsGo host rest (afterAll host world happened)

def afterSteps (host : Host) (world : World) (steps : List DirectoryStep) : World :=
  steps.foldl (fun before step => ((step.run host).run before).2) world

variable {host : Host}

theorem WorkingDirectory.within_run {α : Type} (directory : WorkingDirectory) (body : Action α)
    (world : World) : (directory.within body).run world =
      ((body.run world).1, directory.remove (body.run world).2) := rfl

theorem DirectoryStep.goes_create {world : World}
    (able : WorkingDirectory.fault? host world = none) :
    DirectoryStep.create.goes host world = ([.made], none) := by
  rw [DirectoryStep.goes, able]

theorem DirectoryStep.goes_create_refused {world : World} {fault : FileFault}
    (refused : WorkingDirectory.fault? host world = some fault) :
    DirectoryStep.create.goes host world =
      ([.refused], some (.noDirectory fault
        (WorkingDirectory.numbered host world.directories).path.text)) := by
  rw [DirectoryStep.goes, refused]

mutual

theorem DirectoryStep.run_goes : ∀ (step : DirectoryStep) (world : World),
    (step.run host).run world =
      (raising (step.goes host world).2, afterAll host world (step.goes host world).1)
  | .create, world => by
    rw [DirectoryStep.run, Action.run_discard]
    cases refused : WorkingDirectory.fault? host world with
    | none => rw [DirectoryStep.goes_create refused, WorkingDirectory.create_ok refused]; rfl
    | some fault =>
      rw [DirectoryStep.goes_create_refused refused, WorkingDirectory.create_error refused]
      rfl
  | .cleanup number, world => rfl
  | .within number body raises, world => by
    rw [DirectoryStep.run, WorkingDirectory.within_run, Action.run_bind, runBody_goes body world,
      DirectoryStep.goes, afterAll_append]
    cases (bodyGoes host body world).2 with
    | some failure => rfl
    | none => rfl
  | .elsewhere change, world => rfl

theorem runBody_goes : ∀ (body : List DirectoryStep) (world : World),
    (runBody host body).run world =
      (raising (bodyGoes host body world).2, afterAll host world (bodyGoes host body world).1)
  | [], world => rfl
  | step :: rest, world => by
    rw [runBody, Action.run_bind, step.run_goes world, bodyGoes]
    cases step.goes host world with
    | mk happened raised =>
      cases raised with
      | some failure => rfl
      | none => simp only [raising, runBody_goes rest, afterAll_append]

end

theorem afterSteps_goes (steps : List DirectoryStep) (world : World) :
    afterSteps host world steps = afterAll host world (stepsGo host steps world) := by
  induction steps generalizing world with
  | nil => rfl
  | cons step rest ih =>
    rw [stepsGo, afterAll_append, ← ih, afterSteps, List.foldl_cons, step.run_goes]
    rfl

theorem afterSteps_singleton (step : DirectoryStep) (world : World) :
    afterSteps host world [step] = afterAll host world (step.goes host world).1 :=
  congrArg Prod.snd (step.run_goes world)

section Standing

/-- A directory was made, as the one with a number, and was not removed since. -/
def Stands (first number : Nat) (happened : List Happening) : Prop :=
  ∃ before since, happened = before ++ .made :: since ∧
    first + before.countP isAsked = number ∧ .removed number ∉ since

theorem not_stands_nil (first number : Nat) : ¬ Stands first number [] := by
  rintro ⟨before, since, none, _⟩
  cases before <;> cases none

theorem stands_concat {first number : Nat} {happened : List Happening} {happening : Happening} :
    Stands first number (happened ++ [happening]) ↔
      happening = .made ∧ first + happened.countP isAsked = number ∨
        happening ≠ .removed number ∧ Stands first number happened := by
  constructor
  · rintro ⟨before, since, split, counted, kept⟩
    obtain rfl | ⟨front, last, rfl⟩ := List.eq_nil_or_concat' since
    · obtain ⟨rfl, made⟩ := List.append_inj' split rfl
      exact .inl ⟨(List.cons.inj made).1, counted⟩
    · rw [← List.cons_append, ← List.append_assoc] at split
      obtain ⟨rfl, same⟩ := List.append_inj' split rfl
      obtain rfl := (List.cons.inj same).1
      rw [List.mem_append, List.mem_singleton, not_or] at kept
      exact .inr ⟨Ne.symm kept.2, before, front, rfl, counted, kept.1⟩
  · rintro (⟨rfl, counted⟩ | ⟨other, before, since, rfl, counted, kept⟩)
    · exact ⟨happened, [], rfl, counted, List.not_mem_nil⟩
    · refine ⟨before, since ++ [happening], by simp, counted, ?_⟩
      rw [List.mem_append, List.mem_singleton, not_or]
      exact ⟨kept, Ne.symm other⟩

/-- Whatever is changed meanwhile leaves the working directories themselves alone. -/
def Spared (host : Host) (start : World) (happened : List Happening) : Prop :=
  ∀ before change since, happened = before ++ .changed change :: since →
    (afterAll host start before).files.SameDirectories host start.directories
      (change (afterAll host start before).files)

theorem Spared.front {start : World} {first next : List Happening}
    (spared : Spared host start (first ++ next)) : Spared host start first := by
  rintro before change since rfl
  exact spared before change (since ++ next) (by simp)

theorem spared_of_changes {start : World} {happened : List Happening}
    (spares : ∀ change, .changed change ∈ happened → ∀ files : Files,
      files.SameDirectories host start.directories (change files)) :
    Spared host start happened := by
  rintro before change since rfl
  exact spares change (by simp) _

theorem afterAll_directories (start : World) (happened : List Happening) :
    (afterAll host start happened).directories =
      start.directories + happened.countP isAsked := by
  induction happened using List.reverseRecOn with
  | nil => rfl
  | append_singleton done happening ih =>
    rw [afterAll_append, afterAll_singleton, List.countP_append]
    cases happening with
    | made =>
      change (afterAll host start done).directories + 1 = _
      rw [ih]
      rfl
    | refused =>
      change (afterAll host start done).directories + 1 = _
      rw [ih]
      rfl
    | removed number => exact ih
    | changed change => exact ih

theorem numbered_not_prefix {number : Nat} :
    ¬ (WorkingDirectory.numbered host number).location <+: host.temporary := by
  intro within
  have short := within.length_le
  rw [WorkingDirectory.numbered, List.length_append, List.length_singleton] at short
  omega

variable (distinct : Function.Injective host.temporaryNames)

include distinct

theorem numbered_injective : Function.Injective (WorkingDirectory.numbered host) := by
  intro first second same
  have named := List.append_cancel_left (congrArg WorkingDirectory.location same)
  rw [List.singleton_inj] at named
  apply distinct
  have texts := congrArg String.toList named
  simpa [WorkingDirectory.name, String.toList_append, String.ext_iff] using texts

theorem numbered_apart {first second : Nat} (other : first ≠ second) {place : Location}
    (inside : (WorkingDirectory.numbered host second).location <+: place) :
    ¬ (WorkingDirectory.numbered host first).location <+: place := by
  intro within
  exact other (numbered_injective distinct (WorkingDirectory.eq_of_prefix within inside))

theorem standing_numbered {start : World} (unmade : ∀ number, start.directories ≤ number →
      start.files.standing? (WorkingDirectory.numbered host number).location = none)
    {happened : List Happening} (spared : Spared host start happened) {number : Nat}
    (bound : start.directories ≤ number) :
    let standing := (afterAll host start happened).files.standing?
      (WorkingDirectory.numbered host number).location
    (Stands start.directories number happened ∧ standing = some .directory) ∨
      ¬ Stands start.directories number happened ∧ standing = none := by
  intro standing
  induction happened using List.reverseRecOn with
  | nil => exact .inr ⟨not_stands_nil _ _, unmade number bound⟩
  | append_singleton done happening ih =>
    have earlier := ih spared.front
    simp only [standing, afterAll_append, afterAll_singleton, stands_concat]
    cases happening with
    | made =>
      simp only [Happening.after, standing?_numbered_made, afterAll_directories, true_and,
        (numbered_injective distinct).eq_iff]
      by_cases own : start.directories + done.countP isAsked = number
      · exact .inl ⟨.inl own, if_pos own⟩
      · simpa [own] using earlier
    | refused => simpa [Happening.after, WorkingDirectory.unmade] using earlier
    | removed other =>
      change _ ∧ ((afterAll host start done).files.removeDirectory _).standing? _ = _ ∨
        _ ∧ ((afterAll host start done).files.removeDirectory _).standing? _ = _
      rw [Files.standing?_removeDirectory]
      by_cases own : other = number
      · subst own
        refine .inr ⟨by simp, ?_⟩
        obtain ⟨_, there⟩ | ⟨_, gone⟩ := earlier
        · rw [if_pos ⟨(Files.isDirectory_iff _ _).mpr there, List.prefix_rfl⟩]
        · rw [gone, ite_self]
      · rw [if_neg fun both => numbered_apart distinct own List.prefix_rfl both.2]
        simpa [own] using earlier
    | changed change =>
      have same := spared done change [] rfl number bound
      simp only [Happening.after, same]
      simpa using earlier

end Standing

section Apart

/-- Something happens to one directory alone: it is removed, or something changes inside of it while
it is there. -/
def Happening.Concerns (host : Host) (number : Nat) : Happening → Prop
  | made => False
  | refused => False
  | removed other => other = number
  | changed change => ∀ files,
    let location := (WorkingDirectory.numbered host number).location
    (files.isDirectory location = false → change files = files) ∧
      ∀ place, (location <+: place → place = location) → files.SameAt (change files) place

def DirectoryStep.Closes (host : Host) (number : Nat) : DirectoryStep → Prop
  | cleanup other => other = number
  | within other body _ =>
    other = number ∧
      ∀ world, ∀ happening ∈ (bodyGoes host body world).1, happening.Concerns host number
  | _ => False

variable {number : Nat}

theorem remove_absent {world : World}
    (absent : world.files.isDirectory (WorkingDirectory.numbered host number).location = false) :
    ((WorkingDirectory.numbered host number).remove world).files = world.files := by
  change world.files.removeDirectory _ = _
  simp [Files.removeDirectory, absent]

theorem Happening.Concerns.outside {happening : Happening}
    (concerns : happening.Concerns host number) {place : Location}
    (outside : ¬ (WorkingDirectory.numbered host number).location <+: place) (world : World) :
    world.files.SameAt (happening.after host world).files place := by
  cases happening with
  | made => exact concerns.elim
  | refused => exact concerns.elim
  | removed other =>
    cases concerns
    exact Files.removeDirectory_outside _ _ _ outside
  | changed change => exact (concerns world.files).2 place fun inside => absurd inside outside

theorem Happening.Concerns.absent {happening : Happening}
    (concerns : happening.Concerns host number) {world : World}
    (absent : world.files.isDirectory (WorkingDirectory.numbered host number).location = false) :
    (happening.after host world).files = world.files := by
  cases happening with
  | made => exact concerns.elim
  | refused => exact concerns.elim
  | removed other =>
    cases concerns
    exact remove_absent absent
  | changed change => exact (concerns world.files).1 absent

def Whole (files : Files) (location : Location) : Prop :=
  files.isDirectory location = true ∨ ∀ place, location <+: place → files.standing? place = none

theorem Whole.cleared {files : Files} {location place : Location} (whole : Whole files location)
    (inside : location <+: place) : (files.removeDirectory location).standing? place = none := by
  rw [Files.standing?_removeDirectory]
  obtain there | nothing := whole
  · rw [if_pos ⟨there, inside⟩]
  · rw [nothing place inside, ite_self]

theorem Happening.Concerns.whole {happening : Happening}
    (concerns : happening.Concerns host number) {world : World}
    (whole : Whole world.files (WorkingDirectory.numbered host number).location) :
    Whole (happening.after host world).files (WorkingDirectory.numbered host number).location := by
  cases there : world.files.isDirectory (WorkingDirectory.numbered host number).location with
  | false => rwa [concerns.absent there]
  | true =>
    cases happening with
    | made => exact concerns.elim
    | refused => exact concerns.elim
    | removed other =>
      cases concerns
      exact .inr fun place inside => whole.cleared inside
    | changed change =>
      have same := ((concerns world.files).2 _ fun _ => rfl).standing?
      refine .inl ?_
      rwa [Files.isDirectory_iff, Happening.after, same, ← Files.isDirectory_iff]

section Concerned

variable {happened : List Happening}
  (concerned : ∀ happening ∈ happened, happening.Concerns host number)

include concerned

theorem afterAll_outside {place : Location}
    (outside : ¬ (WorkingDirectory.numbered host number).location <+: place) (world : World) :
    world.files.SameAt (afterAll host world happened).files place := by
  induction happened generalizing world with
  | nil => exact .refl _ place
  | cons happening rest ih =>
    obtain ⟨first, others⟩ := List.forall_mem_cons.mp concerned
    exact (first.outside outside world).trans (ih others (happening.after host world))

theorem afterAll_absent {world : World}
    (absent : world.files.isDirectory (WorkingDirectory.numbered host number).location = false) :
    (afterAll host world happened).files = world.files := by
  induction happened generalizing world with
  | nil => rfl
  | cons happening rest ih =>
    obtain ⟨first, others⟩ := List.forall_mem_cons.mp concerned
    have same := first.absent absent
    exact (ih others (same ▸ absent)).trans same

theorem afterAll_whole {world : World}
    (whole : Whole world.files (WorkingDirectory.numbered host number).location) :
    Whole (afterAll host world happened).files
      (WorkingDirectory.numbered host number).location := by
  induction happened generalizing world with
  | nil => exact whole
  | cons happening rest ih =>
    obtain ⟨first, others⟩ := List.forall_mem_cons.mp concerned
    exact ih others (first.whole whole)

theorem concerned_countP : happened.countP isAsked = 0 := by
  rw [List.countP_eq_zero]
  intro happening present asked
  cases happening with
  | made => exact concerned _ present
  | refused => exact concerned _ present
  | removed other => cases asked
  | changed change => cases asked

end Concerned

theorem DirectoryStep.Closes.happens {step : DirectoryStep} (closes : step.Closes host number)
    (world : World) : ∃ inner, (step.goes host world).1 = inner ++ [.removed number] ∧
      ∀ happening ∈ inner, happening.Concerns host number := by
  cases step with
  | create => exact closes.elim
  | cleanup other =>
    cases closes
    exact ⟨[], rfl, by simp⟩
  | within other body raises =>
    obtain ⟨rfl, concerned⟩ := closes
    exact ⟨_, rfl, concerned world⟩
  | elsewhere change => exact closes.elim

theorem DirectoryStep.Closes.leaves {step : DirectoryStep} (closes : step.Closes host number)
    (world : World) (place : Location) :
    (afterSteps host world [step]).files.standing? place =
      if world.files.isDirectory (WorkingDirectory.numbered host number).location ∧
          (WorkingDirectory.numbered host number).location <+: place
      then none else world.files.standing? place := by
  obtain ⟨inner, happened, concerned⟩ := closes.happens world
  rw [afterSteps_singleton, happened, afterAll_append, afterAll_singleton]
  change ((afterAll host world inner).files.removeDirectory _).standing? place = _
  by_cases inside : (WorkingDirectory.numbered host number).location <+: place
  · cases there : world.files.isDirectory (WorkingDirectory.numbered host number).location with
    | true =>
      rw [if_pos ⟨rfl, inside⟩]
      exact (afterAll_whole concerned (.inl there)).cleared inside
    | false => rw [Files.standing?_removeDirectory, afterAll_absent concerned there, there]
  · rw [if_neg fun both => inside both.2, Files.standing?_removeDirectory,
      if_neg fun both => inside both.2, (afterAll_outside concerned inside world).standing?]

theorem DirectoryStep.Closes.directories {step : DirectoryStep} (closes : step.Closes host number)
    (world : World) : (afterSteps host world [step]).directories = world.directories := by
  obtain ⟨inner, happened, concerned⟩ := closes.happens world
  rw [afterSteps_singleton, happened, afterAll_directories, List.countP_append,
    concerned_countP concerned]
  rfl

theorem removed_again (world : World) (count : Nat) :
    (afterSteps host world (List.replicate (count + 1) (.cleanup number))).files =
      (afterSteps host world [.cleanup number]).files := by
  induction count generalizing world with
  | zero => rfl
  | succ count ih =>
    have gone : (afterSteps host world [.cleanup number]).files.isDirectory
        (WorkingDirectory.numbered host number).location = false :=
      Files.isDirectory_removeDirectory_self _ _
    exact (ih (afterSteps host world [.cleanup number])).trans (remove_absent gone)

theorem afterSteps_create (world : World) : afterSteps host world [.create] =
    if WorkingDirectory.fault? host world = none then WorkingDirectory.made host world
    else WorkingDirectory.unmade world := by
  rw [afterSteps_singleton]
  cases refused : WorkingDirectory.fault? host world with
  | none => rw [DirectoryStep.goes_create refused, if_pos rfl]; rfl
  | some fault => rw [DirectoryStep.goes_create_refused refused, if_neg (by simp)]; rfl

theorem created_standing? (host : Host) (world : World) (place : Location) :
    (afterSteps host world [.create]).files.standing? place =
      if WorkingDirectory.fault? host world = none ∧
          place = (WorkingDirectory.numbered host world.directories).location
      then some .directory else world.files.standing? place := by
  rw [afterSteps_create]
  split
  next able => simpa [able] using WorkingDirectory.standing?_made host world place
  next refused => simp [refused, WorkingDirectory.unmade]

theorem created_outside {world : World} {place : Location}
    (outside : WorkingDirectory.fault? host world ≠ none ∨
      place ≠ (WorkingDirectory.numbered host world.directories).location) :
    world.files.SameAt (afterSteps host world [.create]).files place := by
  rw [afterSteps_create]
  split
  next able => exact Files.add_outside _ _ _ _ _ (outside.resolve_left (not_not.mpr able))
  next refused => exact .refl _ place

section Commute

variable (distinct : Function.Injective host.temporaryNames) {step : DirectoryStep}
  (closes : step.Closes host number)

include distinct closes

theorem DirectoryStep.Closes.isDirectory_other {other : Nat} (apart : number ≠ other)
    (world : World) :
    (afterSteps host world [step]).files.isDirectory
        (WorkingDirectory.numbered host other).location =
      world.files.isDirectory (WorkingDirectory.numbered host other).location := by
  rw [Bool.eq_iff_iff, Files.isDirectory_iff, Files.isDirectory_iff, closes.leaves,
    if_neg fun both => numbered_apart distinct apart List.prefix_rfl both.2]

theorem DirectoryStep.Closes.commute {next : DirectoryStep} {other : Nat}
    (alsoCloses : next.Closes host other) (apart : number ≠ other) (world : World)
    (place : Location) :
    (afterSteps host world [step, next]).files.standing? place =
      (afterSteps host world [next, step]).files.standing? place := by
  have one := alsoCloses.leaves (afterSteps host world [step]) place
  have two := closes.leaves (afterSteps host world [next]) place
  rw [closes.isDirectory_other distinct apart, closes.leaves] at one
  rw [alsoCloses.isDirectory_other distinct apart.symm, alsoCloses.leaves] at two
  refine (one.trans ?_).trans two.symm
  split <;> split <;> rfl

theorem DirectoryStep.Closes.fault?_eq {world : World} (older : number ≠ world.directories) :
    WorkingDirectory.fault? host (afterSteps host world [step]) =
      WorkingDirectory.fault? host world := by
  have around : (afterSteps host world [step]).files.standing? host.temporary =
      world.files.standing? host.temporary := by
    rw [closes.leaves, if_neg fun both => numbered_not_prefix both.2]
  have free : (afterSteps host world [step]).files.standing?
      (WorkingDirectory.numbered host world.directories).location =
        world.files.standing? (WorkingDirectory.numbered host world.directories).location := by
    rw [closes.leaves,
      if_neg fun both => numbered_apart distinct older List.prefix_rfl both.2]
  simp only [WorkingDirectory.fault?, closes.directories, around, free]

theorem DirectoryStep.Closes.commute_create {world : World} (older : number ≠ world.directories)
    (place : Location) :
    (afterSteps host world [.create, step]).files.standing? place =
      (afterSteps host world [step, .create]).files.standing? place := by
  have one := closes.leaves (afterSteps host world [.create]) place
  have two := created_standing? host (afterSteps host world [step]) place
  have differs : (WorkingDirectory.numbered host number).location ≠
      (WorkingDirectory.numbered host world.directories).location :=
    fun same => numbered_apart distinct older List.prefix_rfl (same ▸ List.prefix_rfl)
  have own : (afterSteps host world [.create]).files.isDirectory
      (WorkingDirectory.numbered host number).location =
        world.files.isDirectory (WorkingDirectory.numbered host number).location := by
    rw [Bool.eq_iff_iff, Files.isDirectory_iff, Files.isDirectory_iff, created_standing?,
      if_neg fun both => differs both.2]
  rw [own, created_standing?] at one
  rw [closes.fault?_eq distinct older, closes.directories, closes.leaves] at two
  refine (one.trans ?_).trans two.symm
  by_cases new : WorkingDirectory.fault? host world = none ∧
      place = (WorkingDirectory.numbered host world.directories).location
  · obtain ⟨able, rfl⟩ := new
    rw [if_neg fun both => numbered_apart distinct older List.prefix_rfl both.2,
      if_pos ⟨able, rfl⟩, if_pos ⟨able, rfl⟩]
  · rw [if_neg new, if_neg new]

end Commute

end Apart

/-- Working directories of a host that have nothing to do with one another. -/
structure DirectoriesApart (host : Host) : Prop where
  /-- Steps come to what happens in them, whether they fail or not. -/
  happen : ∀ (steps : List DirectoryStep) (world : World), afterSteps host world steps =
    afterAll host world (stepsGo host steps world)
  raised : ∀ (step : DirectoryStep) (world : World),
    ((step.run host).run world).1 = raising (step.goes host world).2
  standing : ∀ (start : World) (happened : List Happening) (number : Nat),
    (∀ later, start.directories ≤ later →
      start.files.standing? (WorkingDirectory.numbered host later).location = none) →
    Spared host start happened → start.directories ≤ number →
    let standing := (afterAll host start happened).files.standing?
      (WorkingDirectory.numbered host number).location
    (Stands start.directories number happened ∧ standing = some .directory) ∨
      ¬ Stands start.directories number happened ∧ standing = none
  /-- A block finds its directory as it is, and what comes of it is handed on. -/
  within : ∀ {α : Type} (body : Action α) (number : Nat) (world : World),
    let directory := WorkingDirectory.numbered host number
    (directory.within body).run world =
        ((body.run world).1, directory.remove (body.run world).2) ∧
      (directory.remove (body.run world).2).files.isDirectory directory.location = false
  /-- A directory that cannot be made leaves everything as it is. -/
  created : ∀ (world : World) (place : Location),
    WorkingDirectory.fault? host world ≠ none ∨
    place ≠ (WorkingDirectory.numbered host world.directories).location →
    world.files.SameAt (afterSteps host world [.create]).files place
  apart : ∀ (number other : Nat) (place : Location), number ≠ other →
    (WorkingDirectory.numbered host other).location <+: place →
    ¬ (WorkingDirectory.numbered host number).location <+: place
  concerned : ∀ (number : Nat) (happened : List Happening),
    (∀ happening ∈ happened, happening.Concerns host number) →
    ∀ (world : World) (place : Location),
      ¬ (WorkingDirectory.numbered host number).location <+: place →
      world.files.SameAt (afterAll host world happened).files place
  closed : ∀ (number : Nat) (step : DirectoryStep), step.Closes host number →
    ∀ (world : World) (place : Location),
      (afterSteps host world [step]).files.standing? place =
        if world.files.isDirectory (WorkingDirectory.numbered host number).location ∧
            (WorkingDirectory.numbered host number).location <+: place
        then none else world.files.standing? place
  again : ∀ (number count : Nat) (world : World),
    (afterSteps host world (List.replicate (count + 1) (.cleanup number))).files =
      (afterSteps host world [.cleanup number]).files
  commute : ∀ (number other : Nat) (step next : DirectoryStep), number ≠ other →
    step.Closes host number → next.Closes host other → ∀ (world : World) (place : Location),
      (afterSteps host world [step, next]).files.standing? place =
        (afterSteps host world [next, step]).files.standing? place
  commuteCreate : ∀ (number : Nat) (step : DirectoryStep), step.Closes host number →
    ∀ (world : World) (place : Location), number ≠ world.directories →
      (afterSteps host world [.create, step]).files.standing? place =
        (afterSteps host world [step, .create]).files.standing? place

/-- As long as names of working directories are never used twice, the directories have nothing to do
with one another. -/
theorem directories_apart (distinct : Function.Injective host.temporaryNames) :
    DirectoriesApart host where
  happen := afterSteps_goes
  raised step world := congrArg Prod.fst (step.run_goes world)
  standing _ _ _ unmade spared bound := standing_numbered distinct unmade spared bound
  within _ _ _ := ⟨rfl, Files.isDirectory_removeDirectory_self _ _⟩
  created _ _ other := created_outside other
  apart _ _ _ other inside := numbered_apart distinct other inside
  concerned _ _ concerned world _ outside := afterAll_outside concerned outside world
  closed _ _ closes := closes.leaves
  again _ count world := removed_again world count
  commute _ _ _ _ apart closes alsoCloses := closes.commute distinct alsoCloses apart
  commuteCreate _ _ closes _ place older := closes.commute_create distinct older place

/-- A block writes into its directory and fails, and another directory is removed, before or after
that; a third directory stays. -/
theorem directories_apart_of_failure :
    let host : Host := {
      current := []
      environment := []
      temporaryNames := fun number => String.ofList (List.replicate number 'a') }
    let start : World := ⟨Files.empty.add ["tmp"] .directory 0o777, 0, [], []⟩
    let location := (WorkingDirectory.numbered host 0).location
    let write : Files → Files := fun files =>
      if files.isDirectory location then files.add (location ++ ["calls"]) (.file []) 0o644
      else files
    let block := DirectoryStep.within 0 [.elsewhere write] (some (.raised "stopped"))
    let before := afterSteps host start [.create, .create, .create]
    let after := afterSteps host before [block, .cleanup 1]
    Function.Injective host.temporaryNames ∧
    ((block.run host).run before).1 = .error (.raised "stopped") ∧
    (∀ place, after.files.standing? place =
      (afterSteps host before [.cleanup 1, block]).files.standing? place) ∧
    after.files.standing? (WorkingDirectory.numbered host 2).location = some .directory := by
  intro host start location write block before after
  have distinct : Function.Injective host.temporaryNames := by
    intro first second same
    have lengths := congrArg List.length (String.ofList_injective same)
    simpa using lengths
  have apart := directories_apart distinct
  have concerns : (Happening.changed write).Concerns host 0 := by
    refine fun files => ⟨fun absent => if_neg (by simp [location, absent]), fun place around => ?_⟩
    simp only [write]
    split
    next =>
      have other : place ≠ location ++ ["calls"] := by
        rintro rfl
        have same : location ++ ["calls"] = location := around (List.prefix_append _ _)
        simp at same
      exact Files.add_outside _ _ _ _ _ other
    next => exact .refl files place
  have closes : block.Closes host 0 := ⟨rfl, fun _ => by simpa [bodyGoes, DirectoryStep.goes] using concerns⟩
  refine ⟨distinct, apart.raised block before,
    apart.commute 0 1 block (.cleanup 1) (by decide) closes rfl before, ?_⟩
  have spares : ∀ files : Files, files.SameDirectories host 0 (write files) := by
    intro files number _
    have around : location <+: (WorkingDirectory.numbered host number).location →
        (WorkingDirectory.numbered host number).location = location :=
      fun inside => (inside.eq_of_length rfl).symm
    exact ((concerns files).2 _ around).standing?
  have stands : Stands 0 2 [.made, .made, .made, .changed write, .removed 0, .removed 1] :=
    ⟨[.made, .made], _, rfl, rfl, by simp⟩
  have spared : Spared host start
      [.made, .made, .made, .changed write, .removed 0, .removed 1] := by
    apply spared_of_changes
    simpa using spares
  have first : WorkingDirectory.fault? host start = none := rfl
  have second : WorkingDirectory.fault? host (afterAll host start [.made]) = none := rfl
  have third : WorkingDirectory.fault? host (afterAll host start [.made, .made]) = none := rfl
  have made : before = afterAll host start [.made, .made, .made] := by
    simp only [before, apart.happen, stepsGo, DirectoryStep.goes_create first,
      DirectoryStep.goes_create second, ← afterAll_append, List.singleton_append,
      DirectoryStep.goes_create third, List.append_nil]
  obtain ⟨_, there⟩ | ⟨gone, _⟩ := apart.standing start _ 2 (fun _ _ => rfl) spared (Nat.zero_le 2)
  · simp only [after, made]
    exact there
  · exact absurd stands gone

end ChartManifests
