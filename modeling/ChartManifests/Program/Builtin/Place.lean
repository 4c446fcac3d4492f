import ChartManifests.Program.Builtin
import ChartManifests.Program.Search
/-!
The current directory of a shell, and what a name means to it.
-/

namespace ChartManifests.Program.Builtin

def isDirect (path : String) : Bool :=
  let first := (Text.splitAt Files.separator path.toList).headD []
  path.toList.head? = some Files.separator || first = ['.'] || first = ['.', '.']

def destinations (state : State) (path : String) : List (String × Bool) :=
  let listed := match state.value? "CDPATH" with
    | some directories =>
      (Text.splitAt ':' directories.toList).map fun directory =>
        (below (String.ofList directory) path, !directory.isEmpty)
    | none => []
  if isDirect path then [(path, false)] else listed ++ [(path, false)]

/-- A path with another one behind it, which leads on from it name by name: one that leads back
takes the last name away. Two slashes at the beginning stay two. -/
def pathAlong (start path : String) : String :=
  let rooted := path.toList.head? = some Files.separator
  let base := if rooted then path else start
  let opening := if (base.toList.takeWhile (· = Files.separator)).length = 2 then "//" else "/"
  let namesOf (text : String) : List String :=
    ((Text.splitAt Files.separator text.toList).filter (· ≠ [])).map String.ofList
  let names := (namesOf path).foldl (fun names name =>
    if name = "." then names else if name = ".." then names.dropLast else names ++ [name])
    (if rooted then [] else namesOf start)
  opening ++ "/".intercalate names

def goTo (physical : Bool) (path : String) : Run Bool := do
  let state ← get
  let wanted := if physical then path else pathAlong state.path path
  match state.files.find state.current wanted with
  | .ok (location, .directory) => do
    let told := if physical then Files.pathTo location else wanted
    set (((({ state with current := location, path := told }.assign "OLDPWD" state.path).assign
      "PWD" told).exportName "OLDPWD").exportName "PWD")
    pure true
  | _ => pure false

def changeDirectory (arguments : List String) : Run Nat := do
  let (given, operands) ← letters "cd" ['L', 'P'] arguments
  let state ← get
  let (path, back) := match operands with
    | [] => ((state.value? "HOME").getD "", false)
    | "-" :: _ => ((state.value? "OLDPWD").getD "", true)
    | path :: _ => (path, false)
  let wanted := if path = "" then "." else path
  let (place, shown) := ((destinations state wanted).find? fun (place, _) =>
    state.files.hasDirectory state.current place).getD (wanted, false)
  if ← goTo (given.getLast? = some 'P') place then do
    if back || shown then writeText 1 ((← get).path ++ "\n")
    pure 0
  else refuse "cd" ("can't cd to " ++ path)

def tellDirectory (arguments : List String) : Run Nat := do
  let (given, _) ← letters "pwd" ['L', 'P'] arguments
  let state ← get
  writeText 1 ((if given.getLast? = some 'P' then state.currentPath else state.path) ++ "\n")
  pure 0

inductive Meaning
  | keyword
  | nickname (value : String)
  | special
  | function
  | builtin
  | program (path : String)
  | unknown
deriving DecidableEq, Repr

def meaningOf (state : State) (name : String) : Meaning :=
  if (Shell.reservedWords state.variety).contains name then .keyword
  else
    match state.aliases.lookup name with
    | some value => .nickname value
    | none =>
      if specials.contains name then .special
      else if state.functions.any fun entry => entry.1 = name then .function
      else if regulars.contains name then .builtin
      else
        match (search state name).bind fun path =>
          (startable state.files state.current path).map fun _ => path with
        | .ok path => .program path
        | .error _ => .unknown

def Meaning.description (name : String) : Meaning → String
  | keyword => name ++ " is a shell keyword"
  | nickname value => name ++ " is an alias for " ++ value
  | special => name ++ " is a special shell builtin"
  | function => name ++ " is a shell function"
  | builtin => name ++ " is a shell builtin"
  | program path => name ++ " is " ++ path
  | unknown => name ++ ": not found"

def Meaning.brief? (name : String) : Meaning → Option String
  | nickname value => some ("alias " ++ name ++ "=" ++ Parameter.quoted value)
  | program path => some path
  | unknown => none
  | _ => some name

def describe (atLength : Bool) (name : String) : Run Nat := do
  let meaning := meaningOf (← get) name
  if atLength then writeText 1 (meaning.description name ++ "\n")
  else
    match meaning.brief? name with
    | some text => writeText 1 (text ++ "\n")
    | none => pure ()
  pure (if meaning = .unknown then 127 else 0)

def type (arguments : List String) : Run Nat := do
  let mut status := 0
  for name in arguments do
    let told ← describe true name
    if told ≠ 0 then status := told
  pure status

def hash (arguments : List String) : Run Nat := do
  let (_, operands) ← letters "hash" ['r', 'v'] arguments
  let mut status := 0
  for name in operands do
    match search (← get) name with
    | .ok _ => pure ()
    | .error _ =>
      complain (name ++ ": not found")
      status := 1
  pure status

end ChartManifests.Program.Builtin
