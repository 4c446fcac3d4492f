import ChartManifests.Proofs.Result
import ChartManifests.Proofs.Text.ByteForm
import ChartManifests.Runner.Subprocess
/-!
What a program is started with. Words and variables are handed over byte by byte; a text without
bytes, or with a null among them, cannot be. Under each name the environment of a program holds what
its command sets, and what the host has otherwise.
-/

namespace ChartManifests

def Text.Passes (text : Text) : Prop := Text.HasBytes text ∧ '\x00' ∉ Text.spelling text

theorem Text.passes_ofString {string : String} (plain : Text.isPlain string.toList = true)
    (whole : '\x00' ∉ string.toList) : Text.Passes (Text.ofString string) := by
  refine ⟨Text.hasBytes_ofString string, ?_⟩
  rwa [Text.ofString, Text.spelling_ofChars (Text.low_of_isPlain plain)]

theorem Text.Passes.append {first second : Text} (own : first.Passes) (other : second.Passes) :
    Text.Passes (first ++ second) := by
  refine ⟨?_, ?_⟩
  · intro point present
    exact (List.mem_append.mp present).elim (own.1 point) (other.1 point)
  · rw [Text.spelling, List.flatMap_append, List.mem_append, not_or]
    exact ⟨own.2, other.2⟩

def IsVariableName (name : String) : Prop := '=' ∉ name.toList ∧ '\x00' ∉ name.toList

def Host.HasVariables (host : Host) : Prop :=
  ∀ entry ∈ host.environment, IsVariableName entry.1 ∧ Text.Passes (Text.ofString entry.2)

structure Command.Passes (command : Command) : Prop where
  program : command.words ≠ []
  words : ∀ word ∈ command.words, ∃ text : Text, word = some text ∧ text.Passes
  bindings : ∀ entry ∈ command.environment, IsVariableName entry.1 ∧
    ∃ text : Text, entry.2 = some text ∧ text.Passes

namespace Command

theorem handedOver_iff {text : Text} {word : String} :
    handedOver text = .ok word ↔ Text.HasBytes text ∧ word = Text.spelled text := by
  rw [← Text.external_iff, handedOver]
  cases Text.external text with
  | error fault => simp only [mapError_error, reduceCtorEq]
  | ok spelled => simp only [mapError_ok, Except.ok.injEq]

theorem hasNull_spelled (text : Text) :
    hasNull (Text.spelled text) = true ↔ '\x00' ∈ Text.spelling text := by
  simp only [hasNull, Text.spelled, String.toList_ofList, List.contains_eq_mem, decide_eq_true_eq]

theorem plainWords_iff {words : List (Option Text)} {plain : List String} :
    plainWords words = .ok plain ↔ ∃ texts : List Text, words = texts.map some ∧
      (∀ text ∈ texts, text.Passes) ∧ plain = texts.map Text.spelled := by
  induction words generalizing plain with
  | nil =>
    simp only [plainWords, Except.ok.injEq, List.nil_eq, List.map_eq_nil_iff]
    constructor
    · rintro rfl
      exact ⟨[], rfl, nofun, rfl⟩
    · rintro ⟨texts, rfl, -, rfl⟩
      rfl
  | cons word rest ih =>
    cases word with
    | none =>
      simp only [plainWords, reduceCtorEq, false_iff]
      rintro ⟨_ | _, same, -⟩ <;> cases same
    | some text =>
      simp only [plainWords, bind_eq_ok, handedOver_iff]
      constructor
      · rintro ⟨own, ⟨has, rfl⟩, passed⟩
        split at passed
        next => cases passed
        next whole =>
          obtain ⟨others, later, joined⟩ := bind_eq_ok.mp passed
          obtain ⟨texts, rfl, all, rfl⟩ := ih.mp later
          cases joined
          rw [hasNull_spelled] at whole
          exact ⟨text :: texts, rfl, List.forall_mem_cons.mpr ⟨⟨has, whole⟩, all⟩, rfl⟩
      · rintro ⟨_ | ⟨first, texts⟩, same, all, rfl⟩
        · cases same
        · cases same
          rw [List.forall_mem_cons] at all
          refine ⟨_, ⟨all.1.1, rfl⟩, ?_⟩
          rw [if_neg (mt (hasNull_spelled text).mp all.1.2)]
          exact bind_eq_ok.mpr ⟨_, ih.mpr ⟨texts, rfl, all.2, rfl⟩, rfl⟩

theorem environmentOf_iff {bindings : List (String × Option Text)}
    {entries : List (String × String)} :
    environmentOf bindings = .ok entries ↔ ∃ texts : List (String × Text),
      bindings = texts.map (fun entry => (entry.1, some entry.2)) ∧
      (∀ entry ∈ texts, '=' ∉ entry.1.toList ∧ Text.HasBytes entry.2) ∧
      entries = texts.map fun entry => (entry.1, Text.spelled entry.2) := by
  induction bindings generalizing entries with
  | nil =>
    simp only [environmentOf, Except.ok.injEq, List.nil_eq, List.map_eq_nil_iff]
    constructor
    · rintro rfl
      exact ⟨[], rfl, nofun, rfl⟩
    · rintro ⟨texts, rfl, -, rfl⟩
      rfl
  | cons entry rest ih =>
    obtain ⟨name, value⟩ := entry
    simp only [environmentOf, List.contains_eq_mem, decide_eq_true_eq]
    by_cases named : '=' ∈ name.toList
    · simp only [if_pos named, reduceCtorEq, false_iff]
      rintro ⟨_ | ⟨first, texts⟩, same, all, -⟩
      · cases same
      · cases same
        exact (all first List.mem_cons_self).1 named
    · rw [if_neg named]
      cases value with
      | none =>
        simp only [reduceCtorEq, false_iff]
        rintro ⟨_ | _, same, -⟩ <;> cases same
      | some text =>
        simp only [bind_eq_ok, handedOver_iff]
        constructor
        · rintro ⟨own, ⟨has, rfl⟩, others, later, joined⟩
          obtain ⟨texts, rfl, all, rfl⟩ := ih.mp later
          cases joined
          exact ⟨(name, text) :: texts, rfl, List.forall_mem_cons.mpr ⟨⟨named, has⟩, all⟩, rfl⟩
        · rintro ⟨_ | ⟨first, texts⟩, same, all, rfl⟩
          · cases same
          · cases same
            rw [List.forall_mem_cons] at all
            exact ⟨_, ⟨all.1.2, rfl⟩, _, ih.mpr ⟨texts, rfl, all.2, rfl⟩, rfl⟩

theorem launch_iff {host : Host} {limit : Nat} {command : Command} {launch : Launch} :
    command.launch host limit = .ok launch ↔
      ∃ (texts : List Text) (bindings : List (String × Text)),
        texts ≠ [] ∧ command.words = texts.map some ∧ (∀ text ∈ texts, text.Passes) ∧
        command.mergedEnvironment host = bindings.map (fun entry => (entry.1, some entry.2)) ∧
        (∀ entry ∈ bindings, IsVariableName entry.1 ∧ entry.2.Passes) ∧
        launch = ⟨texts.map Text.spelled,
          bindings.map fun entry => (entry.1, Text.spelled entry.2), limit⟩ := by
  constructor
  · intro launched
    unfold Command.launch at launched
    split at launched
    next => cases launched
    next => cases launched
    next program arguments worded =>
      obtain ⟨environment, formed, next⟩ := bind_eq_ok.mp launched
      obtain ⟨plain, handed, last⟩ := bind_eq_ok.mp next
      split at last
      next => cases last
      next whole =>
        cases last
        obtain ⟨bindings, merged, all, rfl⟩ := environmentOf_iff.mp formed
        obtain ⟨texts, spoken, passing, rfl⟩ := plainWords_iff.mp handed
        refine ⟨texts, bindings, ?_, worded.trans spoken, passing, merged, ?_, rfl⟩
        · rintro rfl
          cases spoken
        · intro entry present
          simp only [List.any_map, List.any_eq_true, Function.comp_apply, Bool.or_eq_true,
            hasNull_spelled, not_exists, not_and, not_or] at whole
          have parts := whole entry present
          have named := parts.1
          simp only [hasNull, List.contains_eq_mem, decide_eq_true_eq] at named
          exact ⟨⟨(all entry present).1, named⟩, (all entry present).2, parts.2⟩
  · rintro ⟨texts, bindings, some, worded, passing, merged, all, rfl⟩
    obtain ⟨first, others, rfl⟩ := List.exists_cons_of_ne_nil some
    have formed := environmentOf_iff.mpr
      ⟨bindings, merged, fun entry present => ⟨(all entry present).1.1, (all entry present).2.1⟩,
        rfl⟩
    have handed := plainWords_iff.mpr ⟨first :: others, rfl, passing, rfl⟩
    have whole : ¬ (bindings.map fun entry => (entry.1, Text.spelled entry.2)).any
        (fun entry => hasNull entry.1 || hasNull entry.2) = true := by
      simp only [List.any_map, List.any_eq_true, Function.comp_apply, Bool.or_eq_true,
        hasNull_spelled, not_exists, not_and, not_or]
      intro entry present
      refine ⟨?_, (all entry present).2.2⟩
      simpa [hasNull] using (all entry present).1.2
    unfold Command.launch
    rw [worded]
    simp only [List.map_cons] at handed ⊢
    refine bind_eq_ok.mpr ⟨_, formed, bind_eq_ok.mpr ⟨_, handed, ?_⟩⟩
    rw [if_neg whole]

section Merged

variable {name other : String} {value : Option Text} {entry : String × Option Text}
  {bindings own : List (String × Option Text)}

theorem lookup_mapValues {α β : Type} (change : α → β) (entries : List (String × α)) :
    (entries.map fun entry => (entry.1, change entry.2)).lookup name =
      (entries.lookup name).map change := by
  induction entries with
  | nil => rfl
  | cons entry rest ih =>
    obtain ⟨first, content⟩ := entry
    simp only [List.map_cons, List.lookup_cons, ih]
    split <;> rfl

theorem lookup_putVariable :
    (putVariable other value bindings).lookup name =
      if name = other then some value else bindings.lookup name := by
  induction bindings with
  | nil =>
    by_cases same : name = other
    · simp [putVariable, same]
    · simp [putVariable, List.lookup_cons, same, beq_false_of_ne same]
  | cons entry rest ih =>
    obtain ⟨first, content⟩ := entry
    by_cases taken : first = other
    · subst taken
      by_cases same : name = first
      · simp [putVariable, same]
      · simp [putVariable, List.lookup_cons, same, beq_false_of_ne same]
    · simp only [putVariable, if_neg taken, List.lookup_cons, ih]
      by_cases same : name = other
      · subst same
        simp [beq_false_of_ne (Ne.symm taken)]
      · simp [same]

theorem mem_putVariable (present : entry ∈ putVariable other value bindings) :
    entry = (other, value) ∨ entry ∈ bindings := by
  induction bindings with
  | nil => exact Or.inl (List.mem_singleton.mp present)
  | cons first rest ih =>
    unfold putVariable at present
    split at present
    next =>
      obtain own | later := List.mem_cons.mp present
      · exact Or.inl own
      · exact Or.inr (List.mem_cons_of_mem _ later)
    next =>
      obtain own | later := List.mem_cons.mp present
      · exact Or.inr (own ▸ List.mem_cons_self)
      · exact (ih later).imp_right (List.mem_cons_of_mem _)

theorem mem_putVariable_self : (other, value) ∈ putVariable other value bindings := by
  induction bindings with
  | nil => exact List.mem_cons_self
  | cons first rest ih =>
    unfold putVariable
    split
    next => exact List.mem_cons_self
    next => exact List.mem_cons_of_mem _ ih

theorem mem_putVariable_of_mem (present : entry ∈ bindings) (differs : entry.1 ≠ other) :
    entry ∈ putVariable other value bindings := by
  induction bindings with
  | nil => cases present
  | cons first rest ih =>
    unfold putVariable
    obtain rfl | later := List.mem_cons.mp present
    · rw [if_neg differs]
      exact List.mem_cons_self
    · split
      next => exact List.mem_cons_of_mem _ later
      next => exact List.mem_cons_of_mem _ (ih later)

def puts (own bindings : List (String × Option Text)) : List (String × Option Text) :=
  own.foldl (fun merged entry => putVariable entry.1 entry.2 merged) bindings

theorem mem_puts_of_mem (present : entry ∈ bindings)
    (differs : ∀ later ∈ own, entry.1 ≠ later.1) : entry ∈ puts own bindings := by
  induction own generalizing bindings with
  | nil => exact present
  | cons first rest ih =>
    rw [List.forall_mem_cons] at differs
    exact ih (mem_putVariable_of_mem present differs.1) differs.2

theorem mem_puts_of_own (distinct : (own.map Prod.fst).Nodup) (present : entry ∈ own) :
    entry ∈ puts own bindings := by
  induction own generalizing bindings with
  | nil => cases present
  | cons first rest ih =>
    rw [List.map_cons, List.nodup_cons] at distinct
    obtain rfl | later := List.mem_cons.mp present
    · have put : entry ∈ putVariable entry.1 entry.2 bindings := mem_putVariable_self
      have alone : ∀ other ∈ rest, entry.1 ≠ other.1 :=
        fun other among same => distinct.1 (same ▸ List.mem_map_of_mem among)
      change entry ∈ puts rest (putVariable entry.1 entry.2 bindings)
      exact mem_puts_of_mem put alone
    · exact ih distinct.2 later

theorem mem_of_mem_puts (present : entry ∈ puts own bindings) :
    entry ∈ own ∨ entry ∈ bindings := by
  induction own generalizing bindings with
  | nil => exact Or.inr present
  | cons first rest ih =>
    obtain later | put := ih present
    · exact Or.inl (List.mem_cons_of_mem _ later)
    · obtain rfl | before := mem_putVariable put
      · exact Or.inl List.mem_cons_self
      · exact Or.inr before

theorem lookup_puts (distinct : (own.map Prod.fst).Nodup) :
    (puts own bindings).lookup name = (own.lookup name).or (bindings.lookup name) := by
  induction own generalizing bindings with
  | nil => rfl
  | cons entry rest ih =>
    obtain ⟨first, content⟩ := entry
    rw [List.map_cons, List.nodup_cons] at distinct
    have later : (puts rest (putVariable first content bindings)).lookup name =
        (rest.lookup name).or ((putVariable first content bindings).lookup name) := ih distinct.2
    rw [lookup_putVariable] at later
    rw [List.lookup_cons, puts, List.foldl_cons]
    refine later.trans ?_
    by_cases same : name = first
    · have once : rest.lookup first = none := by
        rw [List.lookup_eq_none_iff]
        intro other present
        exact bne_iff_ne.mpr fun equal => distinct.1 (List.mem_map.mpr ⟨other, present, equal.symm⟩)
      simp [same, once]
    · simp [same, beq_false_of_ne same]

end Merged

variable {host : Host} {limit : Nat} {command : Command}

theorem lookup_launch {launch : Launch} (distinct : (command.environment.map Prod.fst).Nodup)
    (launched : command.launch host limit = .ok launch) (name : String) :
    launch.environment.lookup name =
      match command.environment.lookup name with
      | some value => value.map Text.spelled
      | none => (host.environment.lookup name).map fun value =>
          Text.spelled (Text.ofString value) := by
  obtain ⟨texts, bindings, -, -, -, merged, -, rfl⟩ := launch_iff.mp launched
  have known : (bindings.lookup name).map some =
      (command.environment.lookup name).or
        ((host.environment.lookup name).map fun value => some (Text.ofString value)) := by
    rw [← lookup_mapValues, ← lookup_mapValues, ← merged]
    exact lookup_puts distinct
  rw [lookup_mapValues]
  cases own : command.environment.lookup name with
  | some value =>
    rw [own, Option.some_or] at known
    obtain ⟨text, found, rfl⟩ := Option.map_eq_some_iff.mp known
    rw [found]
  | none =>
    rw [own, Option.none_or] at known
    cases given : host.environment.lookup name with
    | none =>
      rw [given] at known
      rw [Option.map_eq_none_iff.mp known]
      rfl
    | some value =>
      rw [given] at known
      obtain ⟨text, found, same⟩ := Option.map_eq_some_iff.mp known
      cases same
      exact congrArg (Option.map Text.spelled) found

theorem exists_launch_iff (orderly : host.HasVariables)
    (distinct : (command.environment.map Prod.fst).Nodup) :
    (∃ launch, command.launch host limit = .ok launch) ↔ command.Passes := by
  constructor
  · rintro ⟨launch, launched⟩
    obtain ⟨texts, bindings, some, worded, passing, merged, all, rfl⟩ := launch_iff.mp launched
    refine ⟨?_, ?_, ?_⟩
    · rw [worded]
      exact fun empty => some (List.map_eq_nil_iff.mp empty)
    · intro word present
      rw [worded] at present
      obtain ⟨text, among, rfl⟩ := List.mem_map.mp present
      exact ⟨text, rfl, passing text among⟩
    · intro entry present
      have among : entry ∈ command.mergedEnvironment host := mem_puts_of_own distinct present
      rw [merged] at among
      obtain ⟨⟨name, text⟩, given, rfl⟩ := List.mem_map.mp among
      exact ⟨(all _ given).1, text, rfl, (all _ given).2⟩
  · rintro ⟨program, words, own⟩
    have all : ∀ entry ∈ command.mergedEnvironment host, IsVariableName entry.1 ∧
        ∃ text : Text, entry.2 = some text ∧ text.Passes := by
      intro entry present
      obtain set | given := mem_of_mem_puts present
      · exact own entry set
      · obtain ⟨⟨name, value⟩, among, rfl⟩ := List.mem_map.mp given
        exact ⟨(orderly _ among).1, Text.ofString value, rfl, (orderly _ among).2⟩
    refine ⟨_, launch_iff.mpr ⟨command.words.map (·.getD []),
      (command.mergedEnvironment host).map fun entry => (entry.1, entry.2.getD []),
      mt List.map_eq_nil_iff.mp program, ?_, ?_, ?_, ?_, rfl⟩⟩
    · refine (List.map_id command.words).symm.trans ?_
      rw [List.map_map]
      refine List.map_congr_left fun word present => ?_
      obtain ⟨text, rfl, -⟩ := words word present
      rfl
    · intro text present
      obtain ⟨word, among, rfl⟩ := List.mem_map.mp present
      obtain ⟨text, rfl, passes⟩ := words word among
      exact passes
    · refine (List.map_id (command.mergedEnvironment host)).symm.trans ?_
      rw [List.map_map]
      refine List.map_congr_left fun entry present => ?_
      obtain ⟨-, text, set, -⟩ := all entry present
      exact Prod.ext rfl (by simp [set])
    · intro entry present
      obtain ⟨⟨name, value⟩, among, rfl⟩ := List.mem_map.mp present
      obtain ⟨named, text, rfl, passes⟩ := all _ among
      exact ⟨named, passes⟩

end Command

namespace Runner

variable {command : Command} {host : Host} {limit : Int} {launch : Launch}

/-- A runner of programs hands a launch over for a command: whatever its machine is, it leaves the
files as the machine does that is given this launch. -/
def Hands (host : Host) (limit : Int) (command : Command) (launch : Launch) : Prop :=
  ∀ (machine : Machine) (history : List Command) (files : Files),
    (subprocess machine host limit history command files).files = (machine launch files).2

theorem files_conclude (command : Command) (ending : Ending) (files : Files) :
    (conclude command ending files).files = files := by
  cases ending with
  | notStarted | overdue => rfl
  | exited status output errors =>
    unfold conclude
    dsimp only
    split <;> rfl

theorem hands_iff : Hands host limit command launch ↔
    0 < limit ∧ command.launch host limit.toNat = .ok launch := by
  constructor
  · intro hands
    -- A machine that tells this launch from all others by the time at which it leaves the files.
    let clock : Machine := fun given files =>
      (.overdue, if given = launch then { files with now := files.now + 1 } else files)
    have told := congrArg Files.now (hands clock [] .empty)
    simp only [clock, if_true, subprocess] at told
    split at told
    next => simp [Files.empty] at told
    next some =>
      refine ⟨Int.not_le.mp some, ?_⟩
      split at told
      next => simp [Files.empty] at told
      next other launched =>
        rw [files_conclude] at told
        by_cases same : other = launch
        · rw [launched, same]
        · simp [same, Files.empty] at told
  · rintro ⟨some, launched⟩ machine history files
    simp only [subprocess, if_neg (Int.not_le.mpr some), launched, files_conclude]

theorem exists_hands_iff (orderly : host.HasVariables)
    (distinct : (command.environment.map Prod.fst).Nodup) :
    (∃ launch, Hands host limit command launch) ↔ 0 < limit ∧ command.Passes := by
  simp only [hands_iff, exists_and_left, Command.exists_launch_iff orderly distinct]

end Runner

end ChartManifests
