import ChartManifests.Program.Rich.Basic
import ChartManifests.Program.Items
import ChartManifests.Program.Requoting
import ChartManifests.Program.Search
/-!
What names mean to the rich shell, and the programs whose paths it remembers.
-/

namespace ChartManifests.Program.Rich

inductive Meaning
  | nickname (value : String)
  | keyword
  | function
  | builtin
  | hashed (path : String)
  | program (path : String)
deriving DecidableEq, Repr

namespace Meaning

def description (name : String) : Meaning → String
  | nickname value => name ++ " is aliased to `" ++ value ++ "'"
  | keyword => name ++ " is a shell keyword"
  | function => name ++ " is a function"
  | builtin => name ++ " is a shell builtin"
  | hashed path => name ++ " is hashed (" ++ path ++ ")"
  | program path => name ++ " is " ++ path

def kind : Meaning → String
  | nickname _ => "alias"
  | keyword => "keyword"
  | function => "function"
  | builtin => "builtin"
  | hashed _ | program _ => "file"

def brief (name : String) : Meaning → String
  | nickname value => "alias " ++ name ++ "=" ++ Requoting.single value
  | hashed path | program path => path
  | _ => name

def path? : Meaning → Option String
  | hashed path | program path => some path
  | _ => none

end Meaning

def programsOf (state : State) (name : String) : List String :=
  let startable (path : String) : Bool :=
    (Program.startable state.files state.current path).toOption.isSome
  if hasSlash name then [name].filter startable
  else
    let directories := ((state.value? "PATH").map fun path =>
      (Text.splitAt ':' path.toList).map String.ofList).getD []
    (directories.map fun directory =>
      if directory = "" then "./" ++ name else below directory name).filter startable

def meaningsOf (state : State) (name : String) (functions : Bool) : List Meaning :=
  let nicknames := if state.isOn "expand_aliases" then (state.aliases.lookup name).toList else []
  let words := (Shell.reservedWords .rich).contains name
  let remembered := (state.extra.remembered.find? fun entry => entry.1 = name).map fun entry =>
    entry.2.1
  nicknames.map Meaning.nickname
    ++ (if words then [.keyword] else [])
    ++ (if functions && state.functions.any fun entry => entry.1 = name then [.function] else [])
    ++ (if builtins.contains name then [.builtin] else [])
    ++ (remembered.toList.map Meaning.hashed)
    ++ (programsOf state name).map Meaning.program

def type (arguments : List String) : Deed Nat := do
  let (given, operands) ← letters "type" "aftpP".toList arguments
  let has (letter : Char) : Bool := given.contains letter
  let mut status := 0
  for name in operands do
    let state ← get
    let all := if has 'P' then (programsOf state name).map Meaning.program
      else meaningsOf state name (!has 'f')
    let listed := if has 'a' then all.filter fun meaning => match meaning with
        | .hashed _ => false
        | _ => true
      else all.take 1
    for meaning in listed do
      if has 't' then writeText 1 (meaning.kind ++ "\n")
      else if has 'p' || has 'P' then
        writeText 1 ((meaning.path?.map (· ++ "\n")).getD "")
      else writeText 1 (meaning.description name ++ "\n")
    if listed.isEmpty then
      if !has 't' && !has 'p' && !has 'P' then blame "type" (name ++ ": not found")
      status := 1
  pure status

def describeAll (atLength : Bool) (names : List String) : Run Nat := do
  let mut status := 1
  for name in names do
    match meaningsOf (← get) name true with
    | meaning :: _ =>
      writeText 1 ((if atLength then meaning.description name else meaning.brief name) ++ "\n")
      status := 0
    | [] => if atLength then blame "command" (name ++ ": not found")
  pure status

def remember (name : String) (path? : Option String) (uses : Nat) : Run Unit :=
  modify fun state => state.withExtras fun extras =>
    let others := extras.remembered.filter fun entry => entry.1 ≠ name
    { extras with remembered := match path? with
      | some path => (name, path, uses) :: others
      | none => others }

def rememberedInOrder (state : State) : List (String × String × Nat) :=
  state.extra.remembered.mergeSort fun left right =>
    Content.drawer left.1 % 256 ≤ Content.drawer right.1 % 256

def hash (arguments : List String) : Deed Nat := do
  let (given, operands) ← options "hash" "dlrt".toList ['p'] arguments
  let has (letter : Char) : Bool := given.any (·.1 = letter)
  if has 'r' then
    modify fun state => state.withExtras fun extras => { extras with remembered := [] }
  let state ← get
  if operands.isEmpty then do
    if has 'r' then pure 0
    else if has 't' || has 'd' || has 'p' then
      blame "hash" ("-" ++ String.ofList ((given.map Prod.fst).take 1)
        ++ ": option requires an argument")
      misused "hash"
    else do
      let all := rememberedInOrder state
      if all.isEmpty then writeText 1 "hash: hash table empty\n"
      else if has 'l' then
        writeText 1 (String.join (all.map fun (name, path, _) =>
          "builtin hash -p " ++ path ++ " " ++ name ++ "\n"))
      else
        writeText 1 ("hits\tcommand\n" ++ String.join (all.map fun (_, path, uses) =>
          let digits := toString uses
          String.ofList (List.replicate (4 - digits.length) ' ') ++ digits ++ "\t" ++ path ++ "\n"))
      pure 0
  else do
    let mut status := 0
    for name in operands do
      let state ← get
      let known := state.extra.remembered.find? fun entry => entry.1 = name
      if has 't' then
        match known with
        | some (_, path, _) =>
          writeText 1 ((if 1 < operands.length then name ++ "\t" else "") ++ path ++ "\n")
        | none =>
          blame "hash" (name ++ ": not found")
          status := 1
      else if has 'd' then
        if known.isNone then
          blame "hash" (name ++ ": not found")
          status := 1
        else remember name none 0
      else if has 'p' then remember name ((given.find? (·.1 = 'p')).map Prod.snd) 0
      else if !hasSlash name && !builtins.contains name
          && !state.functions.any fun entry => entry.1 = name then
        match (programsOf state name).head? with
        | some path => remember name (some path) 0
        | none =>
          blame "hash" (name ++ ": not found")
          status := 1
    pure status

def nickname (arguments : List String) : Deed Nat := do
  let (given, operands) ← letters "alias" ['p'] arguments
  let line (entry : String × String) : String :=
    "alias " ++ entry.1 ++ "=" ++ Requoting.single entry.2 ++ "\n"
  if operands.isEmpty || given.contains 'p' then
    writeText 1 (String.join (((← get).aliases.mergeSort fun left right =>
      left.1 ≤ right.1).map line))
  let mut status := 0
  for word in operands do
    let state ← get
    let name := String.ofList (word.toList.takeWhile (· ≠ '='))
    if name.length < word.length && name ≠ "" then
      if name.toList.any fun character =>
          ['/', '$', '`', '='].contains character || Shell.endsWord character
            || ['"', '\'', '\\'].contains character then
        blame "alias" ("`" ++ name ++ "': invalid alias name")
        status := 1
      else
        let value := String.ofList (word.toList.drop (name.length + 1))
        set { state with aliases := (name, value) :: state.aliases.filter (·.1 ≠ name) }
    else
      match state.aliases.lookup word with
      | some value => writeText 1 (line (word, value))
      | none =>
        blame "alias" (word ++ ": not found")
        status := 1
  pure status

def unalias (arguments : List String) : Deed Nat := do
  let (given, operands) ← letters "unalias" ['a'] arguments
  if given.contains 'a' then do
    modify fun state => { state with aliases := [] }
    pure 0
  else if operands.isEmpty then misused "unalias"
  else do
    let mut status := 0
    for name in operands do
      if ((← get).aliases.lookup name).isNone then
        blame "unalias" (name ++ ": not found")
        status := 1
      modify fun state => { state with aliases := state.aliases.filter (·.1 ≠ name) }
    pure status

def caller (arguments : List String) : Deed Nat := do
  let state ← get
  let extras := state.extra
  let lines := extras.frames.map Frame.line ++ extras.script.toList.map fun _ => 0
  let names := extras.frames.map Frame.name ++ extras.script.toList.map fun _ => "main"
  let sources := State.sources extras
  match arguments with
  | [] => do
    writeText 1 (toString (lines.headD 0) ++ " " ++ (sources[1]?).getD "NULL" ++ "\n")
    pure 0
  | word :: _ =>
    match integer? word with
    | none => do
      blame "caller" (word ++ ": invalid number")
      misused "caller"
    | some number =>
      let index := number.toNat
      match extras.frames[index]?, names[index + 1]?, sources[index + 1]? with
      | some frame, some name, some source => do
        writeText 1 (toString frame.line ++ " " ++ name ++ " " ++ source ++ "\n")
        pure 0
      | _, _, _ => pure 1

def enable (arguments : List String) : Deed Nat := do
  let (given, operands) ← options "enable" "adnps".toList ['f'] arguments
  if operands.isEmpty then do
    if !given.any (·.1 = 'n') then
      writeText 1 (String.join (listedBuiltins.map fun name => "enable " ++ name ++ "\n"))
    pure 0
  else do
    let mut status := 0
    for name in operands do
      if !listedBuiltins.contains name then
        blame "enable" (name ++ ": not a shell builtin")
        status := 1
    pure status
where
  listedBuiltins : List String :=
    (builtins ++ ["bind", "compgen", "complete", "compopt", "fc", "help", "history"]).mergeSort
      fun left right => left ≤ right

end ChartManifests.Program.Rich
