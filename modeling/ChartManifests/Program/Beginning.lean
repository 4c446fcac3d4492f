import ChartManifests.Program.Builtin.Settings
import ChartManifests.Program.Rich.Signals
import ChartManifests.Program.Search
/-!
How programs begin: what is left of a program in one that branches off from it or takes its place,
and what a shell begins with.
-/

namespace ChartManifests.Program

def ignoring (traps : List (Nat × String)) : List (Nat × String) :=
  traps.filter fun trap => trap.2 = ""

def State.isProvided (state : State) : Bool := state.traps.any fun trap => trap.2 ≠ ""

def inherited (state : State) : List (Nat × String) :=
  state.traps.filter fun trap =>
    trap.2 ≠ "" && ((trap.1 = Rich.failure && state.options.contains 'E')
      || ((trap.1 = Rich.debugging || trap.1 = Rich.comingBack) && state.options.contains 'T'))

def State.branch (state : State) : State :=
  { state with
    traps := ignoring state.traps ++ (if state.isRich then inherited state else [])
    arrived := []
    jobs := []
    unwritten := none }.withExtras fun extras =>
      { extras with
        depth := extras.depth + 1
        siblings := if state.jobs.isEmpty then extras.siblings else state.jobs }

def State.aside (state : State) : State :=
  { state.branch with
    traps := (2, "") :: (3, "") :: ignoring state.traps
    shielded := false }

def firstOwnDescriptor : Nat := 1024

def State.afresh (state : State) : State :=
  { state with
    descriptors := state.descriptors.filter (·.1 < firstOwnDescriptor)
    parameters := (state.parameters.filter fun parameter =>
        parameter.exported && parameter.hasText).map fun parameter =>
      { parameter with fixed := false, integer := false, letters := .kept, refers := false }
    kept := []
    place := .first
    locals := none
    calls := 0
    functions := []
    aliases := []
    traps := ignoring state.traps
    arrived := []
    options := []
    shielded := false
    loops := 0
    status := 0
    outputStatus := 0
    latest := none
    jobs := []
    line := 1
    reached := 1
    speaker := none
    flooded := false
    unwritten := none
    extras := none }

/-- What a path starts. A shell runs a file without a first line that names a program by itself;
nothing else does. -/
def resolved (state : State) (byShell : Bool) (path : String) (words : List String) :
    Except FileFault Resolved := do
  match ← resolve state.files state.current longestChain path words with
  | .plain shown content rest =>
    if byShell && shown = path then .ok (.plain shown content rest) else .error .badFormat
  | found => .ok found

def resolvedByName (state : State) (words : List String) : Except FileFault Resolved := do
  let known := if (state.value? "PATH").isSome then state else state.assign "PATH" defaultPath
  resolved state true (← search known (words.headD "")) words

def beginShell : Run Unit := do
  let state ← get
  let default (name value : String) (state : State) : State :=
    if (state.value? name).isSome then state else state.assign name value
  let here? := (state.value? "PWD").filter fun path =>
    path.toList.head? = some Files.separator
      && (state.files.locate [] path).toOption = some state.current
  let path := here?.getD state.currentPath
  let known := { state with path, shell := state.identity }.assign "PPID" (toString state.parent)
  let placed := if here?.isSome then known else known.assign "PWD" path
  set ((((((placed.exportName "PWD").assign "IFS" " \t\n").assign placeName "1")
    |> default "PATH" usualPath) |> default "PS1" "# ") |> default "PS2" "> ")
  modify (default "PS4" "+ ")

/-- The option letters of a shell and its operands, or a complaint. The letters `c` and `s` tell
where the script is. -/
def shellOptions : List String → Except String (List Char × List String)
  | [] => .ok ([], [])
  | word :: rest =>
    match word.toList with
    | ['-'] | ['-', '-'] => .ok ([], rest)
    | sign :: letters =>
      if (sign = '-' ∨ sign = '+') ∧ letters ≠ [] then
        match letters.find? fun letter => !(optionOrder ++ ['c', 'o', 'l']).contains letter with
        | some letter => .error ("Illegal option -" ++ String.singleton letter)
        | none => do
          let kept := if sign = '-' then letters.filter (· ≠ 'o') else []
          if !letters.contains 'o' then
            let (others, operands) ← shellOptions rest
            .ok (kept ++ others, operands)
          else
            match rest with
            | [] => .ok (kept, [])
            | name :: more => do
              let named ← match Builtin.optionNames.lookup name with
                | some letter => .ok letter.toList
                | none => .error ("Illegal option -o " ++ name)
              let (others, operands) ← shellOptions more
              .ok (kept ++ (if sign = '-' then named else []) ++ others, operands)
      else .ok ([], word :: rest)
    | [] => .ok ([], word :: rest)

end ChartManifests.Program
