import ChartManifests.Proofs.Host.Paths
/-!
What writing to a path comes to. A file gets another content, or there is a new file; whatever is no
file takes the content and stays as it is.
-/

namespace ChartManifests

/-- Something that takes what is written to it and keeps nothing, neither a file nor a directory. -/
def Entry.IsSink (entry : Entry) : Prop := entry ≠ .directory ∧ ∀ content, entry ≠ .file content

namespace Files

/-- What was written to a path is there, unless something is there that keeps nothing. -/
def Received (before after : Files) (current : Location) (text : String) (content : Text.Bytes) :
    Prop :=
  after.content? current text = some content ∨
    after = before ∧ ∃ location entry, before.find current text = .ok (location, entry) ∧
      entry.IsSink ∧ ∀ kind, entry ≠ .device kind

/-- Why a path cannot be written to. A directory or a program stands there; the path asks for a
directory that is not there; it leads nowhere; or the place that it leads to is in no directory. -/
inductive Barred (files : Files) (current : Location) (text : String) : FileFault → Prop
  | directory {location : Location} :
      files.find current text = .ok (location, .directory) → Barred files current text .isDirectory
  | program {location : Location} {name : String} :
      files.find current text = .ok (location, .utility name) → Barred files current text .denied
  | slash : files.find current text = .error .missing →
      text.toList.getLast? = some separator → Barred files current text .isDirectory
  | astray {fault : FileFault} : files.locate current text = .error fault →
      (fault = .missing → text.toList.getLast? ≠ some separator) →
      Barred files current text fault
  | uncontained {location : Location} : files.locate current text = .ok location →
      files.standing? location = none → text.toList.getLast? ≠ some separator →
      files.standing? location.dropLast = none → Barred files current text .missing
  | misplaced {location : Location} {around : Entry} : files.locate current text = .ok location →
      files.standing? location = none → text.toList.getLast? ≠ some separator →
      files.standing? location.dropLast = some around → around ≠ .directory →
      Barred files current text .notDirectory

variable {files after : Files} {location place : Location} {content : Text.Bytes}

theorem standing?_setContent {number : Nat} (present : number < files.nodes.size) :
    (files.setContent number content).standing? place =
      if files.number? place = some number then some (.file content)
      else files.standing? place := by
  have same : (files.setContent number content).number? place = files.number? place := rfl
  simp only [standing?, node?, same]
  cases found : files.number? place with
  | none => simp
  | some own =>
    simp only [setContent, changeNode, Option.bind_some, Array.getElem?_modify, Option.some.injEq]
    by_cases equal : own = number
    · subst equal
      simp [Array.getElem?_eq_getElem present]
    · simp [equal, Ne.symm equal]

theorem standing?_of_number? {other : Location} (same : files.number? place = files.number? other) :
    files.standing? place = files.standing? other := by
  simp only [standing?, node?, same]

theorem sameWays_setContent {number : Nat} {old : Text.Bytes}
    (found : files.number? location = some number)
    (standing : files.standing? location = some (.file old)) :
    SameWays files (files.setContent number content) := by
  -- A file may stand in several places, and all of them change together.
  have shared : ∀ place, files.number? place = some number →
      files.standing? place = some (.file old) :=
    fun place same => (standing?_of_number? (same.trans found.symm)).trans standing
  constructor
  · intro place
    rw [standing?_setContent (number?_lt found)]
    by_cases same : files.number? place = some number
    · simp [same, shared place same]
    · simp [same]
  · intro place target
    rw [standing?_setContent (number?_lt found)]
    by_cases same : files.number? place = some number
    · simp [same, shared place same]
    · simp [same]

theorem sameWays_add {mode : Nat} (free : files.standing? location = none) :
    SameWays files (files.add location (.file content) mode) := by
  constructor
  · intro place
    rw [standing?_add]
    by_cases same : place = location <;> simp [same, free]
  · intro place target
    rw [standing?_add]
    by_cases same : place = location <;> simp [same, free]

/-- Storing leaves all ways as they are. The content is in its place then, unless something stood
there that keeps nothing. -/
theorem store_ok {mode : Nat} (stored : files.store location content mode = .ok after) :
    SameWays files after ∧ (after.standing? location = some (.file content) ∨
      after = files ∧ ∃ entry, files.standing? location = some entry ∧ entry.IsSink) := by
  unfold store at stored
  split at stored
  next => cases stored
  next number old found standing =>
    cases stored
    refine ⟨sameWays_setContent found standing, Or.inl ?_⟩
    rw [standing?_setContent (number?_lt found), if_pos found]
  next entry notDirectory standing notFile =>
    cases stored
    refine ⟨.refl files, Or.inr ⟨rfl, entry, standing, ?_⟩⟩
    constructor
    · rintro rfl
      exact notDirectory rfl
    · rintro bytes rfl
      cases found : files.number? location with
      | none => simp [standing?, node?, found] at standing
      | some number => exact notFile number bytes found rfl
  next free =>
    split at stored
    next =>
      cases stored
      exact ⟨sameWays_add free, Or.inl (by rw [standing?_add, if_pos rfl])⟩
    next => cases stored
    next => cases stored

theorem find_iff {current : Location} {text : String} {entry : Entry} :
    files.find current text = .ok (location, entry) ↔
      files.locate current text = .ok location ∧ files.standing? location = some entry := by
  simp only [find, Bind.bind, Except.bind, occupied]
  cases files.locate current text with
  | error fault => simp
  | ok goal =>
    cases standing : files.standing? goal with
    | none =>
      simp only [standing, reduceCtorEq, false_iff, Except.ok.injEq, not_and]
      rintro rfl
      simp [standing]
    | some found =>
      simp only [standing, Except.ok.injEq, Prod.mk.injEq]
      constructor
      · rintro ⟨rfl, rfl⟩
        exact ⟨rfl, standing⟩
      · rintro ⟨rfl, there⟩
        exact ⟨rfl, Option.some.inj (standing.symm.trans there)⟩

theorem find_error_iff {current : Location} {text : String} {fault : FileFault} :
    files.find current text = .error fault ↔
      files.locate current text = .error fault ∨ fault = .missing ∧
        ∃ location, files.locate current text = .ok location ∧
          files.standing? location = none := by
  simp only [find, Bind.bind, Except.bind, occupied]
  cases files.locate current text with
  | error other => simp
  | ok goal =>
    cases standing : files.standing? goal with
    | none => simp [standing, eq_comm]
    | some found => simp [standing]

theorem store_error_iff {mode : Nat} {fault : FileFault} :
    files.store location content mode = .error fault ↔
      files.standing? location = some .directory ∧ fault = .isDirectory ∨
      files.standing? location = none ∧
        (files.standing? location.dropLast = none ∧ fault = .missing ∨
          ∃ around, files.standing? location.dropLast = some around ∧ around ≠ .directory ∧
            fault = .notDirectory) := by
  unfold store
  split
  next standing => simp [standing, eq_comm]
  next standing => simp [standing]
  next entry notDirectory standing _ =>
    simp only [reduceCtorEq, standing, Option.some.injEq, false_and, or_false, false_iff, not_and]
    exact fun same => absurd same notDirectory
  next free =>
    split
    next around => simp [free, around]
    next entry other around =>
      have proper : entry ≠ .directory := other
      simp [free, around, proper, eq_comm]
    next around => simp [free, around, eq_comm]

theorem content?_of_locate {current : Location} {text : String}
    (led : files.locate current text = .ok location) (same : SameWays files after)
    (held : after.standing? location = some (.file content)) :
    after.content? current text = some content := by
  simp only [content?, find_iff.mpr ⟨same.locate led, held⟩]

theorem replace_stored {current : Location} {text : String}
    (written : files.replace current text content = .ok (.stored after)) :
    SameWays files after ∧ Received files after current text content := by
  have stores : ∀ location, files.locate current text = .ok location →
      (∀ place entry, files.find current text = .ok (place, entry) →
        ∀ kind, entry ≠ .device kind) →
      (files.store location content usualFile).map Written.stored = .ok (.stored after) →
      SameWays files after ∧ Received files after current text content := by
    intro location led plain mapped
    cases stored : files.store location content usualFile with
    | error fault => simp [stored, Except.map] at mapped
    | ok result =>
      simp only [stored, Except.map, Except.ok.injEq, Written.stored.injEq] at mapped
      subst mapped
      obtain ⟨same, held | ⟨unchanged, entry, standing, sink⟩⟩ := store_ok stored
      · exact ⟨same, Or.inl (content?_of_locate led same held)⟩
      · have found := find_iff.mpr ⟨led, standing⟩
        exact ⟨same, Or.inr ⟨unchanged, location, entry, found, sink, plain location entry found⟩⟩
  unfold replace at written
  split at written
  next => cases written
  next => cases written
  next location entry plain _ found =>
    refine stores location (find_iff.mp found).1 (fun place other led kind device => ?_) written
    cases found.symm.trans led
    exact plain kind device
  next missing =>
    split at written
    next => cases written
    next =>
      cases led : files.locate current text with
      | error fault => simp [led, Bind.bind, Except.bind] at written
      | ok location =>
        simp only [led, Bind.bind, Except.bind] at written
        exact stores location led (by simp [missing]) written
  next => cases written

theorem replace_taken {current : Location} {text : String} {kind : Device}
    (written : files.replace current text content = .ok (.taken kind)) :
    ∃ location, files.find current text = .ok (location, .device kind) := by
  have stores : ∀ location, (files.store location content usualFile).map Written.stored ≠
      .ok (.taken kind) := by
    intro location mapped
    cases stored : files.store location content usualFile <;> simp [stored, Except.map] at mapped
  unfold replace at written
  split at written
  next location own found =>
    simp only [Except.ok.injEq, Written.taken.injEq] at written
    exact ⟨location, written ▸ found⟩
  next => cases written
  next => exact absurd written (stores _)
  next =>
    split at written
    next => cases written
    next =>
      cases led : files.locate current text with
      | error fault => simp [led, Bind.bind, Except.bind] at written
      | ok location =>
        simp only [led, Bind.bind, Except.bind] at written
        exact absurd written (stores location)
  next => cases written

section Barred

variable {current : Location} {text : String} {fault : FileFault}

theorem barred_of_store {mode : Nat} (led : files.locate current text = .ok location)
    (missing : files.find current text = .error .missing)
    (plain : text.toList.getLast? ≠ some separator)
    (failed : files.store location content mode = .error fault) :
    files.Barred current text fault := by
  obtain ⟨directory, _⟩ | ⟨free, ⟨absent, rfl⟩ | ⟨around, there, other, rfl⟩⟩ :=
    store_error_iff.mp failed
  · cases missing.symm.trans (find_iff.mpr ⟨led, directory⟩)
  · exact .uncontained led free plain absent
  · exact .misplaced led free plain there other

theorem barred_of_replace (failed : files.replace current text content = .error fault) :
    files.Barred current text fault := by
  unfold replace at failed
  split at failed
  next => cases failed
  next found =>
    cases failed
    exact .program found
  next location entry _ _ found =>
    cases stored : files.store location content usualFile with
    | ok result => simp [stored, Except.map] at failed
    | error other =>
      simp only [stored, Except.map, Except.error.injEq] at failed
      have there := (find_iff.mp found).2
      obtain ⟨directory, rfl⟩ | ⟨free, _⟩ := store_error_iff.mp stored
      · cases there.symm.trans directory
        exact failed ▸ .directory found
      · cases there.symm.trans free
  next missing =>
    split at failed
    next asked =>
      cases failed
      exact .slash missing asked.2
    next unasked =>
      have plain : text.toList.getLast? ≠ some separator := by
        intro last
        refine unasked ⟨?_, last⟩
        rintro rfl
        cases last
      cases led : files.locate current text with
      | error other =>
        simp only [led, Bind.bind, Except.bind, Except.error.injEq] at failed
        exact failed ▸ .astray led fun _ => plain
      | ok location =>
        cases stored : files.store location content usualFile with
        | ok result => simp [led, stored, Bind.bind, Except.bind, Except.map] at failed
        | error other =>
          simp only [led, stored, Bind.bind, Except.bind, Except.map, Except.error.injEq] at failed
          exact failed ▸ barred_of_store led missing plain stored
  next other failing found =>
    cases failed
    obtain astray | ⟨rfl, _⟩ := find_error_iff.mp found
    · exact .astray astray fun missing => absurd missing failing
    · exact absurd rfl failing

theorem replace_of_free (led : files.locate current text = .ok location)
    (free : files.standing? location = none) (plain : text.toList.getLast? ≠ some separator) :
    files.replace current text content =
      (files.store location content usualFile).map Written.stored := by
  have missing : files.find current text = .error .missing :=
    find_error_iff.mpr (Or.inr ⟨rfl, location, led, free⟩)
  simp only [replace, missing, if_neg fun both : text ≠ "" ∧ _ => plain both.2, led]
  rfl

theorem replace_error_iff :
    files.replace current text content = .error fault ↔ files.Barred current text fault := by
  refine ⟨barred_of_replace, fun barred => ?_⟩
  cases barred with
  | @directory location found =>
    have stored : files.store location content usualFile = .error .isDirectory :=
      store_error_iff.mpr (Or.inl ⟨(find_iff.mp found).2, rfl⟩)
    simp only [replace, found, stored, Except.map]
  | program found => simp only [replace, found]
  | slash missing last =>
    have nonempty : text ≠ "" := by
      rintro rfl
      cases last
    simp only [replace, missing, if_pos (And.intro nonempty last)]
  | astray astray plain =>
    have found : files.find current text = .error fault := find_error_iff.mpr (Or.inl astray)
    by_cases missing : fault = .missing
    · subst missing
      simp only [replace, found, if_neg fun both : text ≠ "" ∧ _ => plain rfl both.2, astray]
      rfl
    · unfold replace
      rw [found]
      split
      next same => cases same
      next same => cases same
      next same => cases same
      next same => exact absurd (Except.error.inj same) missing
      next same => exact congrArg Except.error (Except.error.inj same).symm
  | @uncontained location led free plain absent =>
    have stored : files.store location content usualFile = .error .missing :=
      store_error_iff.mpr (Or.inr ⟨free, Or.inl ⟨absent, rfl⟩⟩)
    rw [replace_of_free led free plain, stored]
    rfl
  | @misplaced location around led free plain there other =>
    have stored : files.store location content usualFile = .error .notDirectory :=
      store_error_iff.mpr (Or.inr ⟨free, Or.inr ⟨around, there, other, rfl⟩⟩)
    rw [replace_of_free led free plain, stored]
    rfl

theorem content?_eq_some_iff : files.content? current text = some content ↔
    ∃ location, files.find current text = .ok (location, .file content) := by
  unfold content?
  split
  next location found => simp [found]
  next other =>
    simp only [reduceCtorEq, false_iff, not_exists]
    exact fun location found => other location content found

theorem not_barred_of_content? (held : files.content? current text = some content) :
    ¬ files.Barred current text fault := by
  intro barred
  obtain ⟨location, found⟩ := content?_eq_some_iff.mp held
  obtain ⟨led, there⟩ := find_iff.mp found
  cases barred with
  | directory directory => cases found.symm.trans directory
  | program program => cases found.symm.trans program
  | slash missing => cases found.symm.trans missing
  | astray astray => cases led.symm.trans astray
  | uncontained other free =>
    cases led.symm.trans other
    cases there.symm.trans free
  | misplaced other free =>
    cases led.symm.trans other
    cases there.symm.trans free

end Barred

end Files

end ChartManifests
