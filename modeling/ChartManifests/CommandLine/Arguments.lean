import ChartManifests.Text.CharacterClass
import ChartManifests.Text.Quoted
/-!
Arguments of a program: flags, which have one or more spellings and may take a value, and operands.
A flag may be cut short as long as no other flag begins the same way, and its value may stand behind
an equals sign. Behind two dashes everything is an operand.
-/

namespace ChartManifests.CommandLine

structure Flag where
  spellings : List String
  takesValue : Bool
  choices : List String
deriving DecidableEq, Repr

/-- What a program takes besides flags: nothing, one operand, or one operand out of some choices
and everything behind it. -/
inductive Operands
  | none
  | one (name : String)
  | remaining (name : String) (choices : List String)
deriving DecidableEq, Repr

structure Interface where
  program : String
  usage : String
  help : String
  flags : List Flag
  operands : Operands

inductive ArgumentFault
  | ambiguous (argument : String) (candidates : List String)
  | noValue (flag : String)
  | needlessValue (flag value : String)
  | badChoice (name value : String) (choices : List String)
  | required (name : String)
  | unrecognized (arguments : List String)
deriving DecidableEq, Repr

def ArgumentFault.message : ArgumentFault → String
  | ambiguous argument candidates =>
    "ambiguous option: " ++ argument ++ " could match " ++ ", ".intercalate candidates
  | noValue flag => "argument " ++ flag ++ ": expected one argument"
  | needlessValue flag value =>
    "argument " ++ flag ++ ": ignored explicit argument " ++ Text.quoted value
  | badChoice name value choices =>
    "argument " ++ name ++ ": invalid choice: " ++ Text.quoted value ++ " (choose from "
      ++ ", ".intercalate (choices.map fun (choice : String) => Text.quoted choice) ++ ")"
  | required name => "the following arguments are required: " ++ name
  | unrecognized arguments => "unrecognized arguments: " ++ " ".intercalate arguments

/-- Why a program does not get to its work: it is asked for help, or its arguments are refused. -/
inductive Halt
  | help
  | refused (fault : ArgumentFault)
deriving DecidableEq, Repr

inductive Role
  | operand
  | dashes
  | flag (flag : Option Flag) (spelling : String) (value : Option String)
deriving DecidableEq, Repr

namespace Flag

def name (flag : Flag) : String := "/".intercalate flag.spellings

end Flag

namespace Interface

def flag? (interface : Interface) (spelling : String) : Option Flag :=
  interface.flags.find? fun flag => flag.spellings.contains spelling

def splitValue (argument : String) : Option (String × String) :=
  let before := argument.toList.takeWhile (· ≠ '=')
  match argument.toList.drop before.length with
  | _ :: value => some (String.ofList before, String.ofList value)
  | [] => none

def startsWith (text beginning : String) : Bool := beginning.toList.isPrefixOf text.toList

def candidates (interface : Interface) (argument : String) :
    List (Flag × String × Option String) :=
  let spellings := interface.flags.flatMap fun flag => flag.spellings.map fun text => (flag, text)
  match argument.toList with
  | '-' :: '-' :: _ =>
    let (begun, value) := match splitValue argument with
      | some (begun, value) => (begun, some value)
      | none => (argument, none)
    (spellings.filter fun entry => startsWith entry.2 begun).map fun entry =>
      (entry.1, entry.2, value)
  | '-' :: letter :: rest =>
    spellings.filterMap fun entry =>
      if entry.2 = String.ofList ['-', letter] then
        some (entry.1, entry.2, some (String.ofList rest))
      else if startsWith entry.2 argument then some (entry.1, entry.2, none)
      else none
  | _ => []

/-- Whether an argument is a number below zero: digits behind a dash, or a dot among them with a
digit behind it. -/
def isNegativeNumber (argument : String) : Bool :=
  match argument.toList with
  | '-' :: rest =>
    let digits := rest.takeWhile Text.isDigit
    let behind := rest.drop digits.length
    let ends (characters : List Char) : Bool := characters = [] || characters = ['\n']
    match behind with
    | '.' :: fraction =>
      let decimals := fraction.takeWhile Text.isDigit
      !decimals.isEmpty && ends (fraction.drop decimals.length)
    | _ => !digits.isEmpty && ends behind
  | _ => false

def role (interface : Interface) (argument : String) : Except ArgumentFault Role :=
  match argument.toList with
  | '-' :: _ :: _ =>
    match interface.flag? argument, (splitValue argument).bind fun parts =>
        (interface.flag? parts.1).map fun flag => (flag, parts) with
    | some flag, _ => .ok (.flag (some flag) argument none)
    | none, some (flag, spelling, value) => .ok (.flag (some flag) spelling (some value))
    | none, none =>
      match interface.candidates argument with
      | [(flag, spelling, value)] => .ok (.flag (some flag) spelling value)
      | [] =>
        if isNegativeNumber argument || argument.toList.contains ' ' then .ok .operand
        else .ok (.flag none argument none)
      | several => .error (.ambiguous argument (several.map fun entry => entry.2.1))
  | _ => .ok .operand

def roles (interface : Interface) : List String → Except ArgumentFault (List (String × Role))
  | [] => .ok []
  | argument :: rest =>
    if argument = "--" then
      .ok ((argument, .dashes) :: rest.map fun other => (other, .operand))
    else do
      let role ← interface.role argument
      let others ← roles interface rest
      .ok ((argument, role) :: others)

end Interface

/-- What a flag was given: a text, or nothing where two dashes stood for the value. -/
inductive Given
  | text (value : String)
  | nothing
deriving DecidableEq, Repr

structure Understood where
  given : List (String × Given)
  operand : Option (List String)
  left : List String

abbrev Request := Flag × Option String

/-- The flags that one argument stands for. Where the last of them takes a value that is not in
the argument, `waits` says so. -/
structure Unfolded where
  requests : List Request
  waits : Bool

/-- Works out the flags that an argument stands for: behind a letter that takes no value there may
be more letters. -/
def unfold : Nat → Interface → Flag → String → Option String → Except ArgumentFault Unfolded
  | 0, _, flag, _, _ => .error (.noValue flag.name)
  | bound + 1, interface, flag, spelling, value =>
    match value with
    | none => .ok ⟨[(flag, none)], flag.takesValue⟩
    | some text =>
      if flag.takesValue then .ok ⟨[(flag, some text)], false⟩
      else
        match spelling.toList, text.toList with
        | ['-', _], next :: rest =>
          let more := String.ofList ['-', next]
          match interface.flag? more with
          | some other => do
            let unfolded ← unfold bound interface other more
              (if rest.isEmpty then none else some (String.ofList rest))
            .ok { unfolded with requests := (flag, none) :: unfolded.requests }
          | none => .error (.needlessValue flag.name text)
        | _, _ => .error (.needlessValue flag.name text)

def carryOut (understood : Understood) : List Request → Except Halt Understood
  | [] => .ok understood
  | (flag, value) :: rest =>
    match value with
    | none => .error .help
    | some text =>
      let given := if text = "--" then Given.nothing else Given.text text
      if given = .text text ∧ flag.choices ≠ [] ∧ text ∉ flag.choices then
        .error (.refused (.badChoice flag.name text flag.choices))
      else
        carryOut { understood with given := (flag.name, given) :: understood.given } rest

def operandHere (operands : Operands) (arguments : List (String × Role)) :
    Option (List String × Nat) :=
  let (lead, rest) := match arguments with
    | (text, .dashes) :: rest => ([text], rest)
    | _ => ([], arguments)
  match operands, rest with
  | .none, _ => none
  | .one _, (text, .operand) :: behind =>
    let trail := match behind with
      | (dashes, .dashes) :: _ => [dashes]
      | _ => []
    some ((lead ++ [text] ++ trail).erase "--", lead.length + 1 + trail.length)
  | .remaining _ _, (_, .operand) :: _ =>
    some (arguments.map Prod.fst, arguments.length)
  | _, _ => none

def takeOperand (operands : Operands) (words : List String) (understood : Understood) :
    Except Halt Understood :=
  match operands with
  | .remaining name choices =>
    let word := words.headD ""
    if word ∈ choices then .ok { understood with operand := some words }
    else .error (.refused (.badChoice name word choices))
  | _ => .ok { understood with operand := some words }

/-- Goes through arguments from the left. An operand is taken where it stands; what is neither a
flag nor an operand is left over. -/
def consume (interface : Interface) : Nat → Understood → List (String × Role) →
    Except Halt Understood
  | 0, understood, _ => .ok understood
  | bound + 1, understood, arguments =>
    match arguments with
    | [] => .ok understood
    | (text, .flag none _ _) :: rest =>
      consume interface bound { understood with left := understood.left ++ [text] } rest
    | (_, .flag (some flag) spelling value) :: rest => do
      let size := spelling.length + (value.getD "").length + 1
      let unfolded ← (unfold size interface flag spelling value).mapError Halt.refused
      if unfolded.waits then
        let last := (unfolded.requests.getLast?.map Prod.fst).getD flag
        match rest with
        | (word, .operand) :: more =>
          let next ← carryOut understood (unfolded.requests.dropLast ++ [(last, some word)])
          consume interface bound next more
        | _ => .error (.refused (.noValue last.name))
      else
        let next ← carryOut understood unfolded.requests
        consume interface bound next rest
    | _ =>
      let isFree := understood.operand.isNone
      match isFree, operandHere interface.operands arguments with
      | true, some (words, count) => do
        let next ← takeOperand interface.operands words understood
        consume interface bound next (arguments.drop count)
      | _, _ =>
        let loose := arguments.takeWhile fun argument => match argument.2 with
          | .flag _ _ _ => false
          | _ => true
        consume interface bound
          { understood with left := understood.left ++ loose.map Prod.fst }
          (arguments.drop loose.length)

def Interface.understand (interface : Interface) (arguments : List String) :
    Except Halt Understood := do
  let roles ← (interface.roles arguments).mapError Halt.refused
  let understood ← consume interface (arguments.length + 1) ⟨[], none, []⟩ roles
  match interface.operands, understood.operand with
  | .one name, none => .error (.refused (.required name))
  | .remaining name _, none => .error (.refused (.required name))
  | _, _ => .ok understood

def Understood.value? (understood : Understood) (flag : String) : Option Given :=
  understood.given.lookup flag

end ChartManifests.CommandLine
