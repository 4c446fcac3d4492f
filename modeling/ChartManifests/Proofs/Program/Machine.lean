import ChartManifests.Program.Machine
/-!
What can be said of everything that a machine runs. A property of the files that every program keeps
for itself, whenever it goes on, is kept by all of them together, however they take turns; and a
program that cannot be started leaves the files alone.
-/

namespace ChartManifests.Program

variable {right : Files → Prop}

/-- A program leaves the files right as long as it finds them so whenever it goes on, and so do the
programs that it starts. -/
def Thread.Keeps (right : Files → Prop) : Thread → Prop
  | .ended _ state => right state.files
  | .waiting _ state resume =>
    right state.files ∧ ∀ later : State, right later.files → (resume later).Keeps right
  | .forking _ child state resume =>
    right state.files ∧ (∀ later : State, right later.files → (child later).Keeps right) ∧
      ∀ later : State, right later.files → (resume later).Keeps right

def Timeless (right : Files → Prop) : Prop :=
  ∀ (files : Files) (duration : Nat), right files →
    right { files with now := files.now + duration }

namespace Crowd

def Outcome.shared : Outcome → Surroundings
  | finished _ shared | overdue shared => shared

structure Keeps (right : Files → Prop) (crowd : Crowd) : Prop where
  files : right crowd.shared.files
  programs : ∀ process ∈ crowd.processes, ∀ later : State, right later.files →
    (process.resume later).Keeps right

namespace Keeps

variable {crowd : Crowd} (kept : crowd.Keeps right)
include kept

theorem of_resumes {other : Crowd} (same : other.shared.files = crowd.shared.files)
    (known : ∀ process ∈ other.processes, ∃ before ∈ crowd.processes,
      process.resume = before.resume) : other.Keeps right := by
  refine ⟨same ▸ kept.files, fun process member => ?_⟩
  obtain ⟨before, present, resumes⟩ := known process member
  exact resumes ▸ kept.programs before present

theorem noteAnswers : crowd.noteAnswers.Keeps right := by
  refine kept.of_resumes rfl fun process member => ?_
  obtain ⟨before, known, rfl⟩ := List.mem_map.mp member
  refine ⟨before, known, ?_⟩
  split
  · rfl
  · split <;> rfl

theorem replace {changed : Process} (keeps : ∀ later : State, right later.files →
    (changed.resume later).Keeps right) : (crowd.replace changed).Keeps right := by
  refine ⟨kept.files, fun process member => ?_⟩
  obtain ⟨before, known, rfl⟩ := List.mem_map.mp member
  split
  · exact keeps
  · exact kept.programs before known

theorem bury (identity parent : Nat) (finish : Finish) :
    (crowd.bury identity parent finish).Keeps right := by
  refine kept.of_resumes rfl fun process member => ?_
  obtain ⟨before, known, rfl⟩ := List.mem_map.mp member
  refine ⟨before, (List.mem_filter.mp known).1, ?_⟩
  split
  · rfl
  · split
    · rw [tell]
      split <;> rfl
    · rfl

theorem strike (number : Nat) {process : Process} (keeps : ∀ later : State, right later.files →
    (process.resume later).Keeps right) : (crowd.strike number process).Keeps right := by
  rw [Crowd.strike]
  split
  · exact kept.replace keeps
  · split
    · split
      · exact kept.bury _ _ _
      · split
        · exact kept.replace keeps
        · dsimp only
          split
          · exact kept
          · exact kept.replace keeps
    · exact kept.bury _ _ _
    · exact kept.replace keeps
    · exact kept

theorem strikes (number : Nat) {targets : List Process}
    (keeps : ∀ process ∈ targets, ∀ later : State, right later.files →
      (process.resume later).Keeps right) :
    (targets.foldl (fun crowd process => crowd.strike number process) crowd).Keeps right := by
  induction targets generalizing crowd with
  | nil => exact kept
  | cons process rest ih =>
    rw [List.forall_mem_cons] at keeps
    exact ih (kept.strike number keeps.1) keeps.2

theorem deliver : crowd.deliver.Keeps right := by
  have started : Crowd.Keeps right
      { crowd with shared := { crowd.shared with signals := [] } } := ⟨kept.files, kept.programs⟩
  rw [Crowd.deliver]
  generalize crowd.shared.signals = sent
  generalize ({ crowd with shared := { crowd.shared with signals := [] } } : Crowd) = reached
    at started
  clear kept
  induction sent generalizing reached with
  | nil => exact started
  | cons signal rest ih =>
    refine ih _ (started.strikes signal.2 fun process member => ?_)
    exact started.programs process (List.mem_filter.mp member).1

theorem advance (timeless : Timeless right) (bound : Nat) {thread : Thread} (keeps : thread.Keeps right) :
    (crowd.advance bound thread).Keeps right := by
  induction bound generalizing crowd thread with
  | zero => exact kept
  | succ bound ih =>
    cases thread with
    | ended finish state =>
      have moved : Crowd.Keeps right { crowd with shared := state.toSurroundings } :=
        ⟨keeps, kept.programs⟩
      exact moved.bury _ _ _
    | waiting wait state resume =>
      have moved : Crowd.Keeps right { crowd with shared := state.toSurroundings } :=
        ⟨keeps.1, kept.programs⟩
      exact moved.replace keeps.2
    | forking begun child state resume =>
      obtain ⟨files, born, goesOn⟩ := keeps
      have grown {process : Process} (keeps : ∀ later : State, right later.files →
          (process.resume later).Keeps right) :
          Crowd.Keeps right { crowd with processes := crowd.processes ++ [process] } := by
        refine ⟨kept.files, fun other member => ?_⟩
        rcases List.mem_append.mp member with known | new
        · exact kept.programs other known
        · rw [List.mem_singleton.mp new]
          exact keeps
      exact ih (grown born) (goesOn _ (timeless _ _ files))

end Keeps

/-- The one of some programs that goes on next, with its time: none if none of them can. -/
def IsEarliest (processes : List Process) : Option (Nat × Process) → Prop
  | none => ∀ process ∈ processes, process.next? = none
  | some (time, process) => process ∈ processes ∧ process.next? = some time ∧
    ∀ other ∈ processes, ∀ later, other.next? = some later → time ≤ later

theorem isEarliest_earlier {processes : List Process} {best : Option (Nat × Process)}
    (known : IsEarliest processes best) (process : Process) :
    IsEarliest (processes ++ [process]) (earlier best process) := by
  have either {other : Process} (member : other ∈ processes ++ [process]) :
      other ∈ processes ∨ other = process := by simpa using member
  unfold earlier
  cases goes : process.next? with
  | none =>
    have missing {other : Process} {later : Nat} (member : other ∈ processes ++ [process])
        (same : other.next? = some later) : other ∈ processes := by
      rcases either member with before | rfl
      · exact before
      · cases goes.symm.trans same
    cases best with
    | none =>
      intro other member
      rcases either member with before | rfl
      · exact known other before
      · exact goes
    | some entry =>
      exact ⟨List.mem_append_left _ known.1, known.2.1, fun other member later same =>
        known.2.2 other (missing member same) later same⟩
  | some time =>
    cases best with
    | none =>
      refine ⟨by simp, goes, fun other member later same => ?_⟩
      rcases either member with before | rfl
      · cases (known other before).symm.trans same
      · cases goes.symm.trans same
        exact Nat.le_refl _
    | some entry =>
      obtain ⟨earliest, first⟩ := entry
      obtain ⟨present, begun, least⟩ := known
      dsimp only
      split
      next less =>
        refine ⟨by simp, goes, fun other member later same => ?_⟩
        rcases either member with before | rfl
        · exact Nat.le_trans (Nat.le_of_lt less) (least other before later same)
        · cases goes.symm.trans same
          exact Nat.le_refl _
      next atLeast =>
        refine ⟨List.mem_append_left _ present, begun, fun other member later same => ?_⟩
        rcases either member with before | rfl
        · exact least other before later same
        · cases goes.symm.trans same
          exact Nat.le_of_not_lt atLeast

/-- The program whose turn it is can go on, and no other one could go on earlier; nobody's turn it
is only if none of them can. -/
theorem first?_isEarliest (crowd : Crowd) : IsEarliest crowd.processes crowd.first? := by
  have gone (before after : List Process) {best : Option (Nat × Process)}
      (known : IsEarliest before best) :
      IsEarliest (before ++ after) (after.foldl earlier best) := by
    induction after generalizing before best with
    | nil => simpa using known
    | cons process rest ih => simpa using ih _ (isEarliest_earlier known process)
  have nobody : IsEarliest [] none := by
    intro process member
    cases member
  have all := gone [] crowd.processes nobody
  rw [List.nil_append] at all
  exact all

theorem follow_keeps (timeless : Timeless right) (main bound : Nat)
    (ended : Option (Finish × Nat)) {crowd : Crowd} (kept : crowd.Keeps right) :
    right (follow main bound ended crowd).shared.files := by
  induction bound generalizing ended crowd with
  | zero => exact kept.files
  | succ bound ih =>
    have noted := kept.deliver.noteAnswers
    rw [follow]
    split
    · split
      · exact noted.files
      · exact noted.files
    · exact noted.files
    next first =>
      have earliest := first?_isEarliest crowd.deliver.noteAnswers
      rw [first] at earliest
      dsimp only
      split
      · exact noted.files
      · split
        · exact noted.files
        · have going := noted.programs _ earliest.1
          exact ih _ (noted.advance timeless _ (going _ (timeless _ _ noted.files)))

end Crowd

namespace Run

variable {α β : Type}

def Keeps (right : Files → Prop) (action : Run α) : Prop :=
  ∀ next : Except Departure α → State → Thread,
    (∀ result (later : State), right later.files → (next result later).Keeps right) →
    ∀ state : State, right state.files → Thread.Keeps right (action next state)

namespace Keeps

theorem pure (value : α) : Keeps right (Pure.pure value : Run α) :=
  fun _ follows state holds => follows (.ok value) state holds

theorem throw (departure : Departure) : Keeps right (MonadExcept.throw departure : Run α) :=
  fun _ follows state holds => follows (.error departure) state holds

theorem bind {action : Run α} {step : α → Run β} (first : Keeps right action)
    (second : ∀ value, Keeps right (step value)) : Keeps right (action >>= step) := by
  intro next follows
  refine first _ fun result later holds => ?_
  cases result with
  | ok value => exact second value next follows later holds
  | error departure => exact follows (.error departure) later holds

theorem tryCatch {action : Run α} {handle : Departure → Run α} (first : Keeps right action)
    (second : ∀ departure, Keeps right (handle departure)) :
    Keeps right (MonadExcept.tryCatch action handle) := by
  intro next follows
  refine first _ fun result later holds => ?_
  cases result with
  | ok value => exact follows (.ok value) later holds
  | error departure => exact second departure next follows later holds

theorem get : Keeps right (MonadState.get : Run State) :=
  fun _ follows state holds => follows (.ok state) state holds

theorem changed {change : State → State}
    (keeps : ∀ state : State, right state.files → right (change state).files) :
    Keeps right (modify change : Run PUnit) :=
  fun _ follows state holds => follows (.ok ()) (change state) (keeps state holds)

theorem await (wait : Wait) : Keeps right (Run.await wait) :=
  fun _ follows _ holds => ⟨holds, follows (.ok ())⟩

theorem pass (duration : Nat) : Keeps right (Run.pass duration) :=
  bind get fun _ => await _

theorem finishOf? (identity : Nat) : Keeps right (Run.finishOf? identity) :=
  fun _ follows state holds =>
    follows _ { state with finished := state.finished.filter (·.1 ≠ identity) } holds

theorem ending (identity : Nat) : Keeps right (Run.ending identity) :=
  bind (await _) fun _ => bind (finishOf? identity) fun _ => pure _

theorem finish (end_ : Finish) : Keeps right (Run.finish end_ : Run α) :=
  fun _ _ _ holds => holds

theorem thread {action : Run Nat} (keeps : Keeps right action) (state : State)
    (holds : right state.files) : (action.thread state).Keeps right := by
  refine keeps _ (fun result later holds => ?_) state holds
  split <;> exact holds

theorem fork {begun : State} {action : Run Nat} (keeps : Keeps right action) :
    Keeps right (Run.fork begun action) :=
  fun _ follows _ holds =>
    ⟨holds, keeps.thread, fun later holds => follows (.ok later.forked) later holds⟩

end Keeps

end Run

section Machine

variable {host : Host} {launch : Launch} {files : Files}

theorem runAlone_keeps (timeless : Timeless right) {state : State} {action : Run Nat}
    (keeps : action.Keeps right) (holds : right state.files) :
    right (runAlone state action).shared.files := by
  refine Crowd.follow_keeps timeless _ _ _ ⟨holds, fun process member => ?_⟩
  rw [List.mem_singleton.mp member]
  exact keeps.thread

theorem firstResolved_cases (state : State) (words paths : List String) :
    (∃ faults, firstResolved state words paths = .error faults ∧
      paths.map (fun path => resolved state false path words) = faults.map .error) ∨
    ∃ found front path rest, firstResolved state words paths = .ok found ∧
      paths = front ++ path :: rest ∧ resolved state false path words = .ok found ∧
      ∀ other ∈ front, ∃ fault, resolved state false other words = .error fault := by
  induction paths with
  | nil => exact .inl ⟨[], rfl, rfl⟩
  | cons path rest ih =>
    rw [firstResolved]
    cases begun : resolved state false path words with
    | ok found => exact .inr ⟨found, [], path, rest, rfl, rfl, begun, nofun⟩
    | error fault =>
      rcases ih with ⟨faults, missed, refused⟩ | ⟨found, front, other, after, met, split, starts, none⟩
      · exact .inl ⟨fault :: faults, by rw [missed]; rfl, by simp [begun, refused]⟩
      · refine .inr ⟨found, path :: front, other, after, by rw [met]; rfl, by rw [split]; rfl,
          starts, ?_⟩
        rw [List.forall_mem_cons]
        exact ⟨⟨fault, begun⟩, none⟩

theorem reportedFault_mem {faults : List FileFault} (some : faults ≠ []) :
    reportedFault faults ∈ faults ∧
      (isAbsence (reportedFault faults) = true → ∀ fault ∈ faults, isAbsence fault = true) := by
  rw [reportedFault]
  cases met : faults.find? fun fault => !isAbsence fault with
  | some fault =>
    refine ⟨List.mem_of_find?_eq_some met, fun absent => ?_⟩
    have present := List.find?_some met
    simp only [Option.some_or, Option.getD_some] at absent
    rw [absent] at present
    cases present
  | none =>
    have all := List.find?_eq_none.mp met
    rw [Option.none_or, List.getLast?_eq_some_getLast some, Option.getD_some]
    exact ⟨List.getLast_mem some, fun _ fault member => by simpa using all fault member⟩

theorem candidates_ne_nil (launch : Launch) : candidates launch ≠ [] := by
  unfold candidates
  dsimp only
  split
  · exact List.cons_ne_nil _ _
  · simpa using Text.splitAt_ne_nil _ _

def attempts (host : Host) (launch : Launch) (files : Files) : List (Except FileFault Resolved) :=
  (candidates launch).map fun path =>
    resolved (beginning host launch files) false path launch.words

/-- A program is not started because of its words, which are too long, or because none of its
candidates can be; the files stay as they are then. -/
theorem machine_notStarted {refusal : Refusal}
    (refused : (machine host launch files).1 = .notStarted refusal) :
    (machine host launch files).2 = files ∧
      ((hasLongWord launch = true ∧ refusal = .program .tooManyArguments) ∨
      ∃ (faults : List FileFault) (fault : FileFault),
        attempts host launch files = faults.map .error ∧ fault ∈ faults ∧
        refusal = .program fault ∧
        (isAbsence fault = true → ∀ other ∈ faults, isAbsence other = true)) := by
  rw [machine] at refused ⊢
  obtain ⟨faults, missed, all⟩ | ⟨found, front, path, rest, met, _⟩ :=
    firstResolved_cases (beginning host launch files) launch.words (candidates launch)
  · have some : faults ≠ [] := by
      rintro rfl
      exact candidates_ne_nil launch (List.map_eq_nil_iff.mp all)
    obtain ⟨member, absent⟩ := reportedFault_mem some
    rw [missed] at refused ⊢
    cases refused
    exact ⟨rfl, .inr ⟨faults, _, all, member, rfl, absent⟩⟩
  · rw [met] at refused ⊢
    dsimp only at refused ⊢
    by_cases long : hasLongWord launch = true
    · rw [if_pos long] at refused ⊢
      cases refused
      exact ⟨rfl, .inl ⟨long, rfl⟩⟩
    · rw [if_neg long] at refused
      split at refused <;> cases refused

theorem machine_keeps (timeless : Timeless right) (holds : right files)
    (keeps : ∀ found, .ok found ∈ attempts host launch files →
      (runResolved depth found).Keeps right) :
    right (machine host launch files).2 := by
  rw [machine]
  obtain ⟨faults, missed, _⟩ | ⟨found, front, path, rest, met, split, starts, _⟩ :=
    firstResolved_cases (beginning host launch files) launch.words (candidates launch)
  · rw [missed]
    exact holds
  · have member : .ok found ∈ attempts host launch files := by
      rw [attempts, split, ← starts]
      exact List.mem_map_of_mem (List.mem_append_right front List.mem_cons_self)
    have begun : right (beginning host launch files).files := holds
    have kept := runAlone_keeps timeless (keeps found member) begun
    rw [met]
    dsimp only
    split
    · exact holds
    · split
      next shared overdue => rw [overdue] at kept; exact kept
      next finish shared finished => rw [finished] at kept; exact kept

end Machine

end ChartManifests.Program
