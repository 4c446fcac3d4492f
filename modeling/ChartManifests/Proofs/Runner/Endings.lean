import ChartManifests.Proofs.Runner.Launch
import ChartManifests.Proofs.Text.Decoding
/-!
What a command comes to by the end of its program. Only a program that ends in time and with status
zero gives an output; all other ends are failures of what the command is run for, and each says what
is known of the end.
-/

namespace ChartManifests

/-- The end of the program of a command. Without any time left it is overdue before it starts, and
otherwise the machine decides. -/
inductive Command.Ends (command : Command) (machine : Machine) (host : Host) (limit : Int)
    (files : Files) : Ending → Prop
  | late : limit ≤ 0 → command.Ends machine host limit files .overdue
  | launched {launch : Launch} : 0 < limit → command.launch host limit.toNat = .ok launch →
      command.Ends machine host limit files (machine launch files).1

def Command.program (command : Command) : Text := (command.words.head?.join).getD []

/-- What the failure of a command says about the end of its program. It is one of the command, by its
purpose and its line, and what the program has said is read from its bytes in the one way there is. -/
structure Accounts (command : Command) (ending : Ending) (fault : CommandFault)
    (failure : Failure) : Prop where
  own : failure = .command command.purpose command.line fault
  line : command.line <:+: failure.message
  notStarted : ∀ refusal, ending = .notStarted refusal →
    fault.errors? = some (refusal.message command.program)
  overdue : ending = .overdue → fault.errors? = none
  exited : ∀ status output errors, ending = .exited status output errors →
    status ≠ 0 ∧ ∃ said, fault.errors? = some said ∧
      (∀ other, Text.Utf8.Decodes errors other ↔ other = said.toList) ∧
      Text.ofString ("return code " ++ toString status) ++
        Text.ofString (if said = "" then "" else "\n" ++ said) <:+ failure.message

structure Attributed (command : Command) (ending : Ending) (result : Except Failure Text.Bytes) :
    Prop where
  returns : ∀ output, result = .ok output ↔ ∃ errors, ending = .exited 0 output errors
  fails : ∀ failure, result = .error failure → ∃ fault, Accounts command ending fault failure

theorem Text.ofString_append (first second : String) :
    Text.ofString (first ++ second) = Text.ofString first ++ Text.ofString second := by
  rw [Text.ofString, Text.ofChars, String.toList_append, List.map_append]
  rfl

theorem line_infix_message (purpose : Purpose) (line : Text) (fault : CommandFault) :
    line <:+: (Failure.command purpose line fault).message := by
  cases fault <;>
  · simp only [Failure.message, CommandFault.message, List.append_assoc]
    exact ⟨_, _, List.append_assoc _ _ _⟩

variable {command : Command} {machine : Machine} {host : Host} {limit : Int} {files : Files}
  {ending : Ending}

theorem accounts_notStarted (command : Command) (refusal : Refusal) :
    Accounts command (.notStarted refusal) (.notStarted (refusal.message command.program))
      (.command command.purpose command.line
        (.notStarted (refusal.message command.program))) := by
  refine ⟨rfl, line_infix_message _ _ _, ?_, nofun, nofun⟩
  rintro _ ⟨⟩
  rfl

theorem accounts_overdue (command : Command) : Accounts command .overdue .overdue
    (.command command.purpose command.line .overdue) :=
  ⟨rfl, line_infix_message _ _ _, nofun, fun _ => rfl, nofun⟩

theorem accounts_exited (command : Command) {status : Int} (failed : status ≠ 0)
    (output errors : Text.Bytes) :
    let fault := CommandFault.exited status (String.ofList (Text.Utf8.decodeLossy errors))
    Accounts command (.exited status output errors) fault
      (.command command.purpose command.line fault) := by
  refine ⟨rfl, line_infix_message _ _ _, nofun, nofun, ?_⟩
  rintro _ _ _ ⟨⟩
  refine ⟨failed, _, rfl, fun other => ?_, ?_⟩
  · rw [String.toList_ofList]
    exact ⟨Text.Utf8.Decodes.eq_decodeLossy,
      fun same => same ▸ Text.Utf8.decodes_decodeLossy errors⟩
  · have named : Text.ofString "' failed with return code " =
        Text.ofString "' failed with " ++ Text.ofString "return code " := by decide
    simp only [Failure.message, CommandFault.message, Text.ofString_append, named]
    exact ⟨Text.ofString "Command '" ++ command.line ++ Text.ofString "' failed with ",
      by simp only [List.append_assoc]⟩

theorem Accounts.attributed {fault : CommandFault} {failure : Failure}
    (accounts : Accounts command ending fault failure)
    (fruitless : ∀ output errors, ending ≠ .exited 0 output errors) :
    Attributed command ending (.error failure) := by
  constructor
  · intro output
    constructor
    · intro returned
      cases returned
    · rintro ⟨errors, well⟩
      exact absurd well (fruitless output errors)
  · intro other failed
    cases failed
    exact ⟨fault, accounts⟩

theorem conclude_attributed (command : Command) (ending : Ending) (files : Files) :
    Attributed command ending (Runner.conclude command ending files).result := by
  cases ending with
  | notStarted refusal => exact (accounts_notStarted command refusal).attributed (by simp)
  | overdue => exact (accounts_overdue command).attributed (by simp)
  | exited status output errors =>
    simp only [Runner.conclude]
    by_cases well : status = 0
    · subst well
      refine ⟨fun other => ?_, fun failure failed => by cases failed⟩
      simp only [if_true, Except.ok.injEq, Ending.exited.injEq, true_and]
      exact ⟨fun same => ⟨errors, same, rfl⟩, fun ⟨_, same, _⟩ => same⟩
    · rw [if_neg well]
      exact (accounts_exited command well output errors).attributed (by simp [well])

namespace Runner

theorem subprocess_attributed (history : List Command)
    (ends : command.Ends machine host limit files ending) :
    Attributed command ending (subprocess machine host limit history command files).result := by
  cases ends with
  | late none =>
    rw [subprocess, if_pos none]
    exact (accounts_overdue command).attributed (by simp)
  | launched some launched =>
    simp only [subprocess, if_neg (Int.not_le.mpr some), launched]
    exact conclude_attributed command _ _

theorem subprocess_unended (history : List Command)
    (endless : ∀ ending, ¬ command.Ends machine host limit files ending) :
    ∃ defect, (subprocess machine host limit history command files).result =
      .error (.defect defect) := by
  have some : ¬ limit ≤ 0 := fun none => endless _ (.late none)
  cases tried : command.launch host limit.toNat with
  | ok launch => exact absurd (.launched (Int.not_le.mp some) tried) (endless _)
  | error defect =>
    refine ⟨defect, ?_⟩
    simp only [subprocess, if_neg some, tried]

theorem subprocess_fails {history : List Command} {failure : Failure}
    (failed : (subprocess machine host limit history command files).result = .error failure) :
    (∃ ending fault, command.Ends machine host limit files ending ∧
      Accounts command ending fault failure) ∨
    ∃ defect, failure = .defect defect := by
  by_cases ended : ∃ ending, command.Ends machine host limit files ending
  · obtain ⟨ending, ends⟩ := ended
    obtain ⟨fault, accounts⟩ := (subprocess_attributed history ends).fails failure failed
    exact Or.inl ⟨ending, fault, ends, accounts⟩
  · obtain ⟨defect, unlaunched⟩ := subprocess_unended history (not_exists.mp ended)
    exact Or.inr ⟨defect, Except.error.inj (failed.symm.trans unlaunched)⟩

end Runner

namespace Command

theorem Ends.unique {other : Ending} (first : command.Ends machine host limit files ending)
    (second : command.Ends machine host limit files other) : ending = other := by
  cases first with
  | late none =>
    cases second with
    | late => rfl
    | launched some => omega
  | launched some own =>
    cases second with
    | late none => omega
    | launched _ launched =>
      cases own.symm.trans launched
      rfl

theorem exists_ends_iff (orderly : host.HasVariables)
    (distinct : (command.environment.map Prod.fst).Nodup) :
    (∃ ending, command.Ends machine host limit files ending) ↔ limit ≤ 0 ∨ command.Passes := by
  constructor
  · rintro ⟨ending, ends⟩
    cases ends with
    | late none => exact Or.inl none
    | launched some launched => exact Or.inr ((exists_launch_iff orderly distinct).mp ⟨_, launched⟩)
  · intro able
    by_cases none : limit ≤ 0
    · exact ⟨_, .late none⟩
    · have passes := able.resolve_left none
      have launches : ∃ launch, command.launch host limit.toNat = .ok launch :=
        (exists_launch_iff orderly distinct).mpr passes
      obtain ⟨launch, launched⟩ := launches
      exact ⟨_, .launched (Int.not_le.mp none) launched⟩

/-- What is known of a command before it is carried out: which ends its program can come to, and
what the command comes to then. -/
structure Attribution (command : Command) (machine : Machine) (host : Host) (limit : Int) :
    Prop where
  ended : ∀ history files ending, command.Ends machine host limit files ending →
    Attributed command ending (Runner.subprocess machine host limit history command files).result
  endless : ∀ history files, (∀ ending, ¬ command.Ends machine host limit files ending) →
    ∃ defect, (Runner.subprocess machine host limit history command files).result =
      .error (.defect defect)
  able : host.HasVariables → ∀ files,
    (∃ ending, command.Ends machine host limit files ending) ↔ limit ≤ 0 ∨ command.Passes
  once : ∀ files ending other, command.Ends machine host limit files ending →
    command.Ends machine host limit files other → ending = other

theorem attribution (distinct : (command.environment.map Prod.fst).Nodup) (machine : Machine)
    (host : Host) (limit : Int) : command.Attribution machine host limit :=
  ⟨fun history _ _ ends => Runner.subprocess_attributed history ends,
    fun history _ endless => Runner.subprocess_unended history endless,
    fun orderly _ => exists_ends_iff orderly distinct,
    fun _ _ _ first second => first.unique second⟩

end Command

end ChartManifests
