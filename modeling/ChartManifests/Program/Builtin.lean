import ChartManifests.Program.Assigning
import ChartManifests.Program.Signal
import ChartManifests.Program.Substitution
import ChartManifests.Program.Utility
import ChartManifests.Shell.Reader
/-!
The utilities that are part of the shell: which there are, what they have in common, and how they
complain. One that refuses its arguments ends the shell if it is a special one.
-/

namespace ChartManifests.Program

def State.complaintPlace (state : State) (line : Nat) : String :=
  match state.extras with
  | some extras =>
    (State.sources extras).head?.getD state.title ++ ": line " ++ toString line ++ ": "
  | none => state.title ++ ": " ++ toString line ++ ": "

def complainAt (line : Nat) (text : String) : Run Unit := do
  let state ← get
  let speaker := (state.speaker.map (· ++ ": ")).getD ""
  writeText 2 (state.complaintPlace line ++ speaker ++ text ++ "\n")

def complain (text : String) : Run Unit := do
  complainAt (← get).line text

def speakingAs {α : Type} (speaker : Option String) (action : Run α) : Run α := do
  let before := (← get).speaker
  modify fun state => { state with speaker }
  let leave : Run Unit := modify fun state => { state with speaker := before }
  let result ← tryCatch action fun departure => do
    leave
    throw departure
  leave
  pure result

def giveUp {α : Type} (text : String) : Run α := do
  complain text
  throw .refused

def refuse {α : Type} (name text : String) : Run α := speakingAs (some name) (giveUp text)

def setStatus (status : Nat) : Run Unit := modify fun state => { state with status }

namespace Builtin

def specials : List String := Shell.specialNames

def regulars : List String :=
  ["[", "alias", "bg", "cd", "chdir", "command", "echo", "false", "fg", "getopts", "hash", "jobs",
    "kill", "printf", "pwd", "read", "test", "true", "type", "ulimit", "umask", "unalias", "wait"]

def all : List String := specials ++ regulars

def assigning : List String := ["alias", "export", "local", "readonly"]

/-- The options in front of the operands, and the operands. Letters in `allowed` stand alone, those
in `valued` have a value. -/
def options (name : String) (allowed valued : List Char) :
    List String → Run (List (Char × String) × List String)
  | [] => pure ([], [])
  | word :: rest =>
    match word.toList with
    | ['-', '-'] => pure ([], rest)
    | '-' :: letter :: letters => do
      let alone := (letter :: letters).takeWhile allowed.contains
      let given := alone.map fun found => (found, "")
      match (letter :: letters).drop alone.length with
      | [] => do
        let (others, operands) ← options name allowed valued rest
        pure (given ++ others, operands)
      | odd :: value =>
        if !valued.contains odd then refuse name ("Illegal option -" ++ String.singleton odd)
        else if !value.isEmpty then do
          let (others, operands) ← options name allowed valued rest
          pure (given ++ [(odd, String.ofList value)] ++ others, operands)
        else
          match rest with
          | [] => refuse name ("No arg for -" ++ String.singleton odd ++ " option")
          | next :: more => do
            let (others, operands) ← options name allowed valued more
            pure (given ++ [(odd, next)] ++ others, operands)
    | _ => pure ([], word :: rest)

def letters (name : String) (allowed : List Char) (arguments : List String) :
    Run (List Char × List String) := do
  let (given, operands) ← options name allowed [] arguments
  pure (given.map Prod.fst, operands)

def number (name word : String) : Run Nat :=
  if Signal.isNumber word then pure (word.toNat?.getD 0)
  else refuse name ("Illegal number: " ++ word)

def assign (name parameter value : String) : Run Unit := do
  let state ← get
  if !isParameterName parameter then refuse name (parameter ++ ": bad variable name")
  else if state.isFixed parameter then refuse name (parameter ++ ": is read only")
  else set (state.assign parameter value)

def setArguments (arguments : List String) : Run Unit :=
  modify fun state => { state with arguments, place := .first }

end Builtin

def State.lackStatus (state : State) : Nat :=
  if state.extra.script.isNone && state.extra.depth = 0 then 127 else 1

def abandon {α : Type} (fault : Shell.Calculation.Fault) : Run α := do
  complain fault.message
  match fault with
  | .unbound _ => do throw (.exited (← get).lackStatus)
  | _ => throw .refused

def settled {α : Type} (result : Except Shell.Calculation.Fault (α × State)) : Run α :=
  match result with
  | .ok (value, state) => do
    set state
    pure value
  | .error fault => abandon fault

def assignParameter (name value : String) : Run Unit := do
  let state ← get
  if state.isRich then
    settled ((assignPlace state ⟨name, none⟩ false value).map fun after => ((), after))
  else if state.isFixed name then giveUp (name ++ ": is read only")
  else set (state.assign name value)

end ChartManifests.Program
