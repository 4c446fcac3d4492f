import ChartManifests.Program.Builtin.Place
import ChartManifests.Program.Rich.Basic
/-!
The current directory of the rich shell, and the directories that it may go back to.
-/

namespace ChartManifests.Program.Rich

def directoryFault (state : State) (path : String) : FileFault :=
  match state.files.find state.current path with
  | .ok (_, .directory) => .missing
  | .ok _ => .notDirectory
  | .error fault => fault

def changeDirectory (arguments : List String) : Deed Nat := do
  let (given, operands) ← letters "cd" ['L', 'P', 'e', '@'] arguments
  let state ← get
  if 1 < operands.length then quit "cd" "too many arguments" 1
  else do
    let (path, back) ← match operands with
      | [] =>
        match state.value? "HOME" with
        | some home => pure (home, false)
        | none => quit "cd" "HOME not set" 1
      | "-" :: _ =>
        match state.value? "OLDPWD" with
        | some old => pure (old, true)
        | none => quit "cd" "OLDPWD not set" 1
      | path :: _ => pure (path, false)
    let wanted := if path = "" then "." else path
    let physical := given.getLast? = some 'P' || state.options.contains 'P'
    let (place, shown) := ((Builtin.destinations state wanted).find? fun (place, _) =>
      state.files.hasDirectory state.current place).getD (wanted, false)
    if ← Builtin.goTo physical place then do
      if back || shown then writeText 1 ((← get).path ++ "\n")
      pure 0
    else quit "cd" (path ++ ": " ++ (directoryFault state path).wording) 1

def tellDirectory (arguments : List String) : Deed Nat := do
  let (given, _) ← letters "pwd" ['L', 'P'] arguments
  let state ← get
  writeText 1 ((if given.getLast? = some 'P' then state.currentPath else state.path) ++ "\n")
  pure 0

def withTilde (state : State) (path : String) : String :=
  match state.value? "HOME" with
  | some home =>
    if home ≠ "" ∧ (path = home ∨ (home ++ "/").toList.isPrefixOf path.toList) then
      "~" ++ String.ofList (path.toList.drop home.length)
    else path
  | none => path

def showStack (long : Bool) : Run Unit := do
  let state ← get
  let paths := state.path :: state.extra.stack
  writeText 1 (" ".intercalate (paths.map fun path => if long then path else withTilde state path)
    ++ "\n")

def rotation? (count : Nat) (word : String) : Option Nat :=
  match word.toList with
  | sign :: digits =>
    if (sign = '+' ∨ sign = '-') ∧ Signal.isNumber (String.ofList digits) then
      let number := ((String.ofList digits).toNat?).getD 0
      if number < count then some (if sign = '+' then number else count - 1 - number) else none
    else none
  | [] => none

def isRotation (word : String) : Bool :=
  match word.toList with
  | sign :: digits =>
    (sign = '+' || sign = '-') && Signal.isNumber (String.ofList digits)
  | [] => false

def goKeeping (name path : String) (stack : List String) : Deed Nat := do
  let state ← get
  if ← Builtin.goTo false path then do
    modify fun state => state.withExtras fun extras => { extras with stack }
    showStack false
    pure 0
  else quit name (path ++ ": " ++ (directoryFault state path).wording) 1

def pushDirectory (arguments : List String) : Deed Nat := do
  let state ← get
  let all := state.path :: state.extra.stack
  match arguments.filter (· ≠ "--") with
  | [] =>
    match state.extra.stack with
    | [] => quit "pushd" "no other directory" 1
    | first :: rest => goKeeping "pushd" first (state.path :: rest)
  | word :: _ =>
    if isRotation word then
      match rotation? all.length word with
      | some number =>
        let turned := all.drop number ++ all.take number
        goKeeping "pushd" (turned.headD "") (turned.drop 1)
      | none =>
        if state.extra.stack.isEmpty then quit "pushd" "directory stack empty" 1
        else quit "pushd" (word ++ ": directory stack index out of range") 1
    else goKeeping "pushd" word all

def popDirectory (arguments : List String) : Deed Nat := do
  let state ← get
  match arguments.filter (· ≠ "--"), state.extra.stack with
  | _, [] => quit "popd" "directory stack empty" 1
  | [], first :: rest => goKeeping "popd" first rest
  | word :: _, first :: rest =>
    match rotation? (rest.length + 2) word with
    | some 0 => goKeeping "popd" first rest
    | some (number + 1) => do
      modify fun state => state.withExtras fun extras =>
        { extras with stack := extras.stack.eraseIdx number }
      showStack false
      pure 0
    | none =>
      if isRotation word then quit "popd" (word ++ ": directory stack index out of range") 1
      else do
        blame "popd" (word ++ ": invalid argument")
        misused "popd"

def directories (arguments : List String) : Deed Nat := do
  match arguments with
  | word :: _ =>
    let state ← get
    let paths := state.path :: state.extra.stack
    if isRotation word then
      match rotation? paths.length word with
      | some number => do
        writeText 1 (withTilde state ((paths[number]?).getD "") ++ "\n")
        pure 0
      | none => quit "dirs" (word ++ ": directory stack index out of range") 1
    else do
      let (given, _) ← letters "dirs" ['c', 'l', 'p', 'v'] arguments
      let shown (path : String) : String :=
        if given.contains 'l' then path else withTilde state path
      if given.contains 'c' then
        modify fun state => state.withExtras fun extras => { extras with stack := [] }
      else if given.contains 'v' then
        writeText 1 (String.join (paths.zipIdx.map fun (path, index) =>
          (if index < 10 then " " else "") ++ toString index ++ "  " ++ shown path ++ "\n"))
      else if given.contains 'p' then
        writeText 1 (String.join (paths.map fun path => shown path ++ "\n"))
      else showStack (given.contains 'l')
      pure 0
  | [] => do
    showStack false
    pure 0

end ChartManifests.Program.Rich
