import ChartManifests.Runner
/-!
The runner that starts programs on a machine and waits for them, for a limited time. Of the
machine nothing is known but how a program ends and which files it leaves.
-/

namespace ChartManifests

/-- A program to start: its words, its whole environment, and the time in microseconds after
which it is stopped. -/
structure Launch where
  words : List String
  environment : List (String × String)
  limit : Nat
deriving DecidableEq, Repr

/-- Why the operating system does not start a program: for the file of the program, or for reasons of
its own, which it puts into words. -/
inductive Refusal
  | program (fault : FileFault)
  | system (complaint : String)
deriving DecidableEq, Repr

def Refusal.message (name : Text) : Refusal → String
  | program fault => fault.message name
  | system complaint => complaint

inductive Ending
  | notStarted (refusal : Refusal)
  | overdue
  | exited (status : Int) (output errors : Text.Bytes)
deriving DecidableEq, Repr

abbrev Machine := Launch → Files → Ending × Files

namespace Command

/-- Gives a variable a value: in place if there is such a variable, at the end otherwise. -/
def putVariable (name : String) (value : Option Text) :
    List (String × Option Text) → List (String × Option Text)
  | [] => [(name, value)]
  | entry :: rest =>
    if entry.1 = name then (name, value) :: rest else entry :: putVariable name value rest

/-- The variables that a command is given: those of the host, and on top of them its own. -/
def mergedEnvironment (host : Host) (command : Command) : List (String × Option Text) :=
  command.environment.foldl (fun merged entry => putVariable entry.1 entry.2 merged)
    (host.environment.map fun entry => (entry.1, some (Text.ofString entry.2)))

def handedOver (text : Text) : Except CommandDefect String :=
  text.external.mapError CommandDefect.encoding

def environmentOf : List (String × Option Text) →
    Except CommandDefect (List (String × String))
  | [] => .ok []
  | (name, value) :: rest =>
    if name.toList.contains '=' then .error .variableName
    else
      match value with
      | none => .error .nullValue
      | some text => do
        let content ← handedOver text
        let others ← environmentOf rest
        .ok ((name, content) :: others)

def hasNull (text : String) : Bool := text.toList.contains '\x00'

def plainWords : List (Option Text) → Except CommandDefect (List String)
  | [] => .ok []
  | none :: _ => .error .nullWord
  | some text :: rest => do
    let word ← handedOver text
    if hasNull word then .error .nullCharacter
    else
      let others ← plainWords rest
      .ok (word :: others)

def launch (host : Host) (limit : Nat) (command : Command) : Except CommandDefect Launch :=
  match command.words with
  | [] => .error .noProgram
  | none :: _ => .error .nullWord
  | program :: arguments => do
    let environment ← environmentOf (command.mergedEnvironment host)
    let plain ← plainWords (program :: arguments)
    if environment.any fun entry => hasNull entry.1 || hasNull entry.2 then
      .error .nullCharacter
    else .ok ⟨plain, environment, limit⟩

end Command

namespace Runner

/-- What becomes of a command, by the end of its program. Only a program that ends in time and
with status zero gives an output. -/
def conclude (command : Command) (ending : Ending) (files : Files) : Answer :=
  let started := Event.commandStarted command.line
  let failed (fault : CommandFault) : Except Failure Text.Bytes :=
    .error (.command command.purpose command.line fault)
  match ending with
  | .notStarted refusal =>
    let name := (command.words.head?.join).getD []
    ⟨failed (.notStarted (refusal.message name)), files, [started]⟩
  | .overdue => ⟨failed .overdue, files, [started]⟩
  | .exited status output errors =>
    if status = 0 then ⟨.ok output, files, [started]⟩
    else
      let fault := CommandFault.exited status (String.ofList (Text.Utf8.decodeLossy errors))
      ⟨failed fault, files, [started, .commandFailed (fault.message command.line)]⟩

def usualLimit : Int := 300000000

/-- Carries out commands by programs on a machine. Without any time left a program is not even
started. -/
def subprocess (machine : Machine) (host : Host) (limit : Int) : Runner :=
  fun _ command files =>
    if limit ≤ 0 then
      ⟨.error (.command command.purpose command.line .overdue), files, []⟩
    else
      match command.launch host limit.toNat with
      | .error defect => ⟨.error (.defect defect), files, [.commandStarted command.line]⟩
      | .ok launch =>
        let (ending, after) := machine launch files
        conclude command ending after

end Runner

end ChartManifests
