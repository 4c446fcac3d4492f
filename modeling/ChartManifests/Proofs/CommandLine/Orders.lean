import ChartManifests.CommandLine.Task
import ChartManifests.Proofs.Result
/-!
How the arguments of the tool are understood. An argument without a dash in front is an operand or
the value of the flag before it, whatever else it holds.
-/

namespace ChartManifests.CommandLine

/-- A text that is not taken for a flag. A dash alone is not. -/
def IsPlain (argument : String) : Prop := argument = "-" ∨ argument.toList.head? ≠ some '-'

theorem IsPlain.role {argument : String} (plain : IsPlain argument) (interface : Interface) :
    interface.role argument = .ok .operand := by
  unfold Interface.role
  split
  next second rest dashed =>
    rcases plain with rfl | plain
    · cases dashed
    · simp [dashed] at plain
  next => rfl

theorem IsPlain.ne_dashes {argument : String} (plain : IsPlain argument) : argument ≠ "--" := by
  rintro rfl
  rcases plain with same | plain
  · exact absurd same (by decide)
  · exact plain rfl

theorem roles_cons {interface : Interface} {argument : String} {rest : List String} {role : Role}
    {others : List (String × Role)} (proper : argument ≠ "--")
    (taken : interface.role argument = .ok role) (follow : interface.roles rest = .ok others) :
    interface.roles (argument :: rest) = .ok ((argument, role) :: others) := by
  simp only [Interface.roles, proper, if_false, taken, follow, bind, Except.bind]

section Consume

variable {interface : Interface} {understood : Understood} {text : String}
  {rest : List (String × Role)}

@[simp] theorem consume_nil (bound : Nat) :
    consume interface bound understood [] = .ok understood := by
  cases bound <;> rfl

theorem consume_command {name : String} {choices : List String} (bound : Nat)
    (operands : interface.operands = .remaining name choices) (free : understood.operand = none)
    (known : text ∈ choices) :
    consume interface (bound + 1) understood ((text, .operand) :: rest) =
      .ok { understood with operand := some (text :: rest.map Prod.fst) } := by
  simp only [consume, free, Option.isNone_none, operands, operandHere, takeOperand, List.map_cons,
    List.headD_cons, known, if_true, List.drop_length, bind, Except.bind]
  exact consume_nil bound

theorem consume_operand {name flag : String} {role : Role} (bound : Nat)
    (operands : interface.operands = .one name) (free : understood.operand = none)
    (proper : text ≠ "--") (flagged : role ≠ .dashes) :
    consume interface (bound + 1) understood ((text, .operand) :: (flag, role) :: rest) =
      consume interface bound { understood with operand := some [text] }
        ((flag, role) :: rest) := by
  have kept : [text].erase "--" = [text] := List.erase_of_not_mem (by simpa using proper.symm)
  cases role with
  | dashes => exact absurd rfl flagged
  | operand => simp [consume, free, operands, operandHere, takeOperand, kept, bind, Except.bind]
  | flag own spelling value =>
    simp [consume, free, operands, operandHere, takeOperand, kept, bind, Except.bind]

theorem consume_flag {flag : Flag} {spelling value : String} (bound : Nat)
    (takes : flag.takesValue = true) (any : flag.choices = []) (proper : value ≠ "--") :
    consume interface (bound + 1) understood
        ((text, .flag (some flag) spelling none) :: (value, .operand) :: rest) =
      consume interface bound
        { understood with given := (flag.name, .text value) :: understood.given } rest := by
  simp [consume, unfold, carryOut, takes, any, proper, bind, Except.bind, mapError_ok]

end Consume

theorem understand_command {command : String} {arguments : List String}
    {others : List (String × Role)} (known : command ∈ commands)
    (plain : IsPlain command) (roles : toolInterface.roles arguments = .ok others)
    (whole : others.map Prod.fst = arguments) :
    toolInterface.understand (command :: arguments) =
      .ok ⟨[], some (command :: arguments), []⟩ := by
  have all := roles_cons plain.ne_dashes (plain.role toolInterface) roles
  have taken : consume toolInterface (arguments.length + 2) ⟨[], none, []⟩
      ((command, .operand) :: others) = .ok ⟨[], some (command :: arguments), []⟩ :=
    whole ▸ consume_command _ rfl rfl known
  simp only [Interface.understand, all, taken, mapError_ok, bind, Except.bind,
    List.length_cons]
  rfl

theorem orderOf_generate {configFile outputFile : String} (config : IsPlain configFile)
    (output : IsPlain outputFile) :
    orderOf ["generate", configFile, "--output-file", outputFile] =
      .ok ⟨none, .generate configFile (.text outputFile)⟩ := by
  have tool : toolInterface.roles [configFile, "--output-file", outputFile] =
      .ok [(configFile, .operand), ("--output-file", .flag none "--output-file" none),
        (outputFile, .operand)] :=
    roles_cons config.ne_dashes (config.role _) (roles_cons (by decide) rfl
      (roles_cons output.ne_dashes (output.role _) rfl))
  have own : generateInterface.roles [configFile, "--output-file", outputFile] =
      .ok [(configFile, .operand), ("--output-file", .flag (some outputFlag) "--output-file" none),
        (outputFile, .operand)] :=
    roles_cons config.ne_dashes (config.role _) (roles_cons (by decide) rfl
      (roles_cons output.ne_dashes (output.role _) rfl))
  have handed : toolInterface.understand ["generate", configFile, "--output-file", outputFile] =
      .ok ⟨[], some ["generate", configFile, "--output-file", outputFile], []⟩ :=
    understand_command (by decide) (Or.inr (by decide)) tool rfl
  have understood : generateInterface.understand [configFile, "--output-file", outputFile] =
      .ok ⟨[(outputFlag.name, .text outputFile)], some [configFile], []⟩ := by
    have taken : consume generateInterface 4 ⟨[], none, []⟩
        [(configFile, .operand), ("--output-file", .flag (some outputFlag) "--output-file" none),
          (outputFile, .operand)] =
        .ok ⟨[(outputFlag.name, .text outputFile)], some [configFile], []⟩ :=
      (consume_operand 3 rfl rfl config.ne_dashes (by simp)).trans
        (consume_flag 2 rfl rfl output.ne_dashes)
    simp only [Interface.understand, own, mapError_ok, bind, Except.bind, List.length_cons,
      List.length_nil, Nat.zero_add, Nat.reduceAdd, taken]
    rfl
  simp only [orderOf, handed, mapError_ok, bind, Except.bind, Option.getD_some,
    List.headD_cons, List.drop_one, List.tail_cons, taskOf, if_true, understood]
  rfl

theorem orderOf_version {helmBin : String} (plain : IsPlain helmBin) :
    orderOf ["version", "--helm-bin", helmBin] = .ok ⟨none, .version (.text helmBin)⟩ := by
  have tool : toolInterface.roles ["--helm-bin", helmBin] =
      .ok [("--helm-bin", .flag none "--helm-bin" none), (helmBin, .operand)] :=
    roles_cons (by decide) rfl (roles_cons plain.ne_dashes (plain.role _) rfl)
  have own : versionInterface.roles ["--helm-bin", helmBin] =
      .ok [("--helm-bin", .flag (some binFlag) "--helm-bin" none), (helmBin, .operand)] :=
    roles_cons (by decide) rfl (roles_cons plain.ne_dashes (plain.role _) rfl)
  have handed : toolInterface.understand ["version", "--helm-bin", helmBin] =
      .ok ⟨[], some ["version", "--helm-bin", helmBin], []⟩ :=
    understand_command (by decide) (Or.inr (by decide)) tool rfl
  have understood : versionInterface.understand ["--helm-bin", helmBin] =
      .ok ⟨[(binFlag.name, .text helmBin)], none, []⟩ := by
    have taken : consume versionInterface 3 ⟨[], none, []⟩
        [("--helm-bin", .flag (some binFlag) "--helm-bin" none), (helmBin, .operand)] =
        .ok ⟨[(binFlag.name, .text helmBin)], none, []⟩ :=
      consume_flag 2 rfl rfl plain.ne_dashes
    simp only [Interface.understand, own, mapError_ok, bind, Except.bind, List.length_cons,
      List.length_nil, Nat.zero_add, Nat.reduceAdd, taken]
    rfl
  have different : "version" ≠ "generate" := by decide
  simp only [orderOf, handed, mapError_ok, bind, Except.bind, Option.getD_some,
    List.headD_cons, List.drop_one, List.tail_cons, taskOf, different, if_false, understood]
  rfl

end ChartManifests.CommandLine
