import ChartManifests.Proofs.Result
import ChartManifests.Proofs.Text.Expression
import ChartManifests.Text.Expression.Reader
/-!
Expressions as they are read. Whatever times are spelled, the lower bound is not above the upper one,
so all that is read can be found unless it refers to what a group has held.
-/

namespace ChartManifests.Text.Expression

def Findable (expression : Expression) : Prop := expression.refers = false → expression.Proper

theorem Findable.both {one two : Expression} (first : one.Findable) (second : two.Findable) :
    (both one two).Findable := by
  intro plain
  rw [refers, Bool.or_eq_false_iff] at plain
  exact ⟨first plain.1, second plain.2⟩

theorem Findable.either {one two : Expression} (first : one.Findable) (second : two.Findable) :
    (either one two).Findable := by
  intro plain
  rw [refers, Bool.or_eq_false_iff] at plain
  exact ⟨first plain.1, second plain.2⟩

theorem findable_escaped {character : Char} {expression : Expression}
    (known : escaped? character = some expression) : expression.Findable := by
  unfold escaped? at known
  split at known <;> cases known <;> exact fun _ => trivial

theorem readSet_findable (characters : List Char) :
    Gives (fun result : Expression × List Char => result.1.Findable) (readSet characters) := by
  simp only [readSet]
  refine .ite (fun _ => .error _) fun _ => .bind (.of _) fun result _ => ?_
  exact .ite (fun _ => .error _) fun _ => .ok fun _ => trivial

def InOrder (low : Nat) (high : Option Nat) : Prop := ∀ most ∈ high, low ≤ most

theorem readBounds_inOrder (extended : Bool) (characters : List Char) :
    Gives (fun result : Nat × Option Nat × List Char => InOrder result.1 result.2.1)
      (readBounds extended characters) := by
  unfold readBounds
  extract_lets closing number low behind
  split
  next high last _ =>
    refine .ite (fun _ => .error _) fun _ => .ite (fun _ => .error _) fun _ =>
      .ite (fun _ => .error _) fun ordered => .ite (fun _ => .error _) fun _ => .ok ?_
    intro most (limited : high = some most)
    rw [limited] at ordered
    simpa using ordered

theorem readTimes_inOrder (spelling : Spelling) (characters : List Char) :
    Gives (fun result : Option (Nat × Option Nat × List Char) =>
      ∀ times ∈ result, InOrder times.1 times.2.1) (readTimes spelling characters) := by
  have free (low : Nat) (rest : List Char) :
      ∀ times ∈ some (low, (none : Option Nat), rest), InOrder times.1 times.2.1 := by
    simp [InOrder]
  have once (rest : List Char) : ∀ times ∈ some (0, some 1, rest), InOrder times.1 times.2.1 := by
    simp [InOrder]
  have absent : ∀ times ∈ (none : Option (Nat × Option Nat × List Char)),
      InOrder times.1 times.2.1 := by
    simp
  have bounded (extended : Bool) (rest : List Char) (times : Nat × Option Nat × List Char)
      (read : readBounds extended rest = .ok times) :
      ∀ given ∈ some times, InOrder given.1 given.2.1 := by
    rintro _ ⟨⟩
    exact readBounds_inOrder extended rest times read
  unfold readTimes
  split
  · exact .ok (free 0 _)
  · refine .ok ?_
    split
    · exact free 1 _
    · exact absent
  · refine .ok ?_
    split
    · exact once _
    · exact absent
  next rest =>
    refine .ite (fun _ => ?_) fun _ => .ok absent
    split
    next times read => exact .ok (bounded true rest times read)
    next fault read =>
      refine .ite (fun _ => .error _) fun _ => ?_
      exact .ite (fun _ => .error _) fun _ => .ok absent
  · refine .ok ?_
    split
    · exact absent
    · exact free 1 _
  · refine .ok ?_
    split
    · exact absent
    · exact once _
  next rest =>
    refine .ite (fun _ => .ok absent) fun _ => ?_
    rintro result given
    cases read : readBounds false rest with
    | error fault => simp [read, Except.map] at given
    | ok times =>
      simp only [read, Except.map, Except.ok.injEq] at given
      exact given ▸ bounded false rest times read
  · exact .ok absent

abbrev GivesFindable (result : Except Fault Reading) : Prop :=
  Gives (fun reading => reading.expression.Findable) result

section Item

variable {spelling : Spelling} {bound : Nat}
  (choice : ∀ depth groups characters,
    GivesFindable (readChoice spelling bound depth groups characters))
  (repeats : ∀ item : Reading, item.expression.Findable →
    GivesFindable (readRepeats spelling bound item))

include choice repeats

theorem readItem_findable (depth : Nat) (first : Bool) (groups : Nat) (characters : List Char) :
    GivesFindable (readItem spelling (bound + 1) depth first groups characters) := by
  rw [readItem.eq_def]
  extract_lets closing
  split
  · contradiction
  next _ depth first groups characters _ same =>
    cases same
    extract_lets one grouped finish
    have finished : ∀ item : Reading, item.expression.Findable → GivesFindable (finish item) :=
      fun item findable => .ite (fun _ => .ok findable) fun _ => repeats item findable
    have single (expression : Expression) (findable : expression.Findable) (rest : List Char) :
        GivesFindable (one expression rest >>= finish) := finished _ findable
    have inGroup (rest : List Char) : GivesFindable (grouped rest >>= finish) := by
      refine .bind (.bind (choice _ _ _) fun body findable => ?_) finished
      exact .ite (fun _ => .ok findable) fun _ => .error _
    have failing (fault : Fault) : GivesFindable (Except.error fault >>= finish) := .error fault
    have either (condition : Prop) [Decidable condition] (first second : Expression)
        (findable : first.Findable ∧ second.Findable) (rest more : List Char) :
        GivesFindable
          (if condition then one first rest >>= finish else one second more >>= finish) :=
      .ite (fun _ => single first findable.1 rest) fun _ => single second findable.2 more
    have simple (expression : Expression) (proper : expression.Proper) : expression.Findable :=
      fun _ => proper
    have repeated (condition : Prop) [Decidable condition] (mark : Char) (all rest : List Char) :
        GivesFindable
          (if spelling.isStrict = true then Except.error Fault.nothingRepeated >>= finish
          else if condition then one nothing all >>= finish
          else one (exactly mark) rest >>= finish) := by
      refine .ite (fun _ => failing _) fun _ => ?_
      exact either _ _ _ ⟨simple nothing trivial, simple (exactly mark) trivial⟩ _ _
    split
    · exact .bind (readSet_findable _) fun result findable => single _ findable _
    · exact single _ (simple anyCharacter trivial) _
    · exact .ite (fun _ => inGroup _) fun _ => single _ (simple (exactly _) trivial) _
    · exact .ite (fun _ => single _ (simple (exactly _) trivial) _) fun _ => inGroup _
    · split
      next expression known => exact single _ (findable_escaped known) _
      next =>
        refine .ite (fun _ => ?_) fun _ => single _ (simple (exactly _) trivial) _
        exact .ite (fun _ => single _ (fun plain => by cases plain) _) fun _ => failing _
    · exact failing _
    · exact either _ _ _ ⟨simple (edge _) trivial, simple (exactly _) trivial⟩ _ _
    · exact either _ _ _ ⟨simple (edge _) trivial, simple (exactly _) trivial⟩ _ _
    · exact repeated _ _ _ _
    · exact repeated _ _ _ _
    · exact repeated _ _ _ _
    · exact .ite (fun _ => failing _) fun _ => single _ (simple (exactly _) trivial) _
    · exact single _ (simple (exactly _) trivial) _
    · exact single _ (simple nothing trivial) _

end Item

theorem readers_findable (spelling : Spelling) (bound : Nat) :
    (∀ depth groups characters,
      GivesFindable (readChoice spelling bound depth groups characters)) ∧
    (∀ depth first groups characters,
      GivesFindable (readSequence spelling bound depth first groups characters)) ∧
    (∀ depth first groups characters,
      GivesFindable (readItem spelling bound depth first groups characters)) ∧
    ∀ item, item.expression.Findable → GivesFindable (readRepeats spelling bound item) := by
  induction bound with
  | zero =>
    refine ⟨fun _ _ _ => ?_, fun _ _ _ _ => ?_, fun _ _ _ _ => ?_, fun item findable => ?_⟩
    · rw [readChoice]
      exact .ok fun _ => trivial
    · rw [readSequence]
      exact .ok fun _ => trivial
    · rw [readItem.eq_def]
      exact .ok fun _ => trivial
    · rw [readRepeats]
      exact .ok findable
  | succ bound ih =>
    obtain ⟨choice, sequence, item, repeats⟩ := ih
    refine ⟨?_, ?_, readItem_findable choice repeats, ?_⟩
    · intro depth groups characters
      rw [readChoice]
      refine .bind (sequence depth true groups characters) fun first begun => ?_
      split
      · exact .bind (choice depth first.groups _) fun second other => .ok (begun.either other)
      · exact .bind (choice depth first.groups _) fun second other => .ok (begun.either other)
      · exact .ok begun
    · intro depth first groups characters
      rw [readSequence]
      refine .ite (fun _ => .ok fun _ => trivial) fun _ => ?_
      refine .bind (item depth first groups characters) fun one begun => ?_
      exact .bind (sequence depth _ one.groups one.rest) fun others more => .ok (begun.both more)
    · intro item findable
      rw [readRepeats]
      refine .bind (readTimes_inOrder spelling item.rest) fun times ordered => ?_
      split
      next low high rest =>
        refine repeats _ fun plain => ⟨?_, findable plain⟩
        exact ordered _ rfl
      · exact .ok findable

/-- However an expression is spelled, what is found of it comes first and is the longest there,
unless it refers to what a group has held. -/
theorem find_read {spelling : Spelling} {spelled : List Char} {expression : Expression}
    {groups : Nat} (read : Expression.read spelling spelled = .ok (expression, groups))
    (plain : expression.refers = false) (folds : Bool) (text : List Char) :
    (expression.find folds [] text = none ↔ IsAbsent folds expression text 0) ∧
    ∀ found, expression.find folds [] text = some found →
      IsFirst folds expression text 0 found := by
  obtain ⟨reading, begun, ended⟩ := bind_eq_ok.mp read
  have findable := (readers_findable spelling _).1 _ _ _ reading begun
  split at ended
  · cases ended
    exact find_first (findable plain) folds text
  · cases ended

end ChartManifests.Text.Expression
