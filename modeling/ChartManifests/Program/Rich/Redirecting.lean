import ChartManifests.Program.Home
import ChartManifests.Program.PathPattern
import ChartManifests.Program.Rich.Basic
import ChartManifests.Program.Rich.Means
import ChartManifests.Shell.Display
/-!
Fields of words and redirections in the rich shell.
-/

namespace ChartManifests.Program.Rich

open Shell (Redirection Word)

def pathManner (state : State) : PathManner where
  groups := state.isOn "extglob"
  hidden := state.isOn "dotglob"
  dots := !state.isOn "globskipdots"
  folds := state.isOn "nocaseglob"
  deep := state.isOn "globstar"

def pathsFor (field : List Shell.Mark) : Run (List String) := do
  let state ← get
  if state.options.contains 'f' then pure [fieldText field]
  else
    match foundPaths (pathManner state) state.files state.current field with
    | none => pure [fieldText field]
    | some (first :: others) => pure (first :: others)
    | some [] =>
      if state.isOn "failglob" then giveUp ("no match: " ++ fieldText field)
      else pure (if state.isOn "nullglob" then [] else [fieldText field])

def Means.fields (means : Means) (word : Word) : Run (List String) := do
  let parts ← means.expand false (homeWord (← get) false word)
  let fields := splitFields (separators (← get)) none false parts
  pure (← fields.mapM pathsFor).flatten

def firstFreeDescriptor : Nat := 10

def freeDescriptor (state : State) : Nat :=
  ((List.range 200).map (· + firstFreeDescriptor)).find? (fun descriptor =>
    (state.streamNumber? descriptor).isNone) |>.getD firstFreeDescriptor

def connectHandle (handle : Shell.Handle) (number : Nat) : Run Bool := do
  match handle with
  | .number descriptor => do
    modify fun state => state.connect descriptor number
    pure true
  | .named parameter => do
    let descriptor := freeDescriptor (← get)
    modify fun state => state.connect descriptor number
    match assignPlace (← get) ⟨parameter, none⟩ false (toString descriptor) with
    | .ok state => do
      set state
      pure true
    | .error fault => do
      complain fault.message
      pure false

def closeHandle (handle : Shell.Handle) : Run Bool := do
  match handle with
  | .number descriptor => do
    modify fun state => state.disconnect descriptor
    pure true
  | .named parameter => do
    match ((← get).value? parameter).bind String.toNat? with
    | some descriptor => do
      modify fun state => state.disconnect descriptor
      pure true
    | none => do
      complain (parameter ++ ": Bad file descriptor")
      pure false

def redirectFault (text : String) : Run Bool := do
  complain text
  pure false

def redirectTo (handle : Shell.Handle) (opening : Shell.Opening) (target : Word) (means : Means) :
    Run Bool := do
  match ← means.fields target with
  | [path] => do
    let state ← get
    let isGuarded := opening = .writing && state.options.contains 'C'
    match ← openPath (if isGuarded then .creating else opening) path with
    | .ok number => connectHandle handle number
    | .error fault =>
      redirectFault (path ++ ": " ++ (if isGuarded && fault = .occupied then
        "cannot overwrite existing file" else fault.wording))
  | _ => redirectFault (Shell.displayWord target ++ ": ambiguous redirect")

def redirectOne (means : Means) : Redirection → Run Bool
  | .mk handle opening target => do
    match opening with
    | .document | .line => do
      let text ← means.text target
      let ending := if opening = .line then "\n" else ""
      let (next, number) := (← get).addStream (.pending (Text.octets (text ++ ending)))
      set next
      connectHandle handle number
    | .duplicate => do
      let text ← means.text target
      let closes := text.toList.getLast? = some '-' && text ≠ "-"
      let digits := if closes then (text.dropEnd 1).toString else text
      if text = "-" then closeHandle handle
      else if Signal.isNumber digits then
        match digits.toNat?.bind (← get).streamNumber? with
        | some number => do
          let done ← connectHandle handle number
          if closes && handle ≠ .number (digits.toNat?.getD 0) then
            modify fun state => state.disconnect (digits.toNat?.getD 0)
          pure done
        | none => redirectFault (Shell.displayWord target ++ ": Bad file descriptor")
      else if handle = .number 1 && text ≠ "" then do
        if ← redirectTo handle .writing target means then
          match (← get).streamNumber? 1 with
          | some number => connectHandle (.number 2) number
          | none => pure true
        else pure false
      else redirectFault (Shell.displayWord target ++ ": ambiguous redirect")
    | _ => redirectTo handle opening target means

def redirect (means : Means) : List Redirection → Run Bool
  | [] => pure true
  | redirection :: rest => do
    if ← redirectOne means redirection then redirect means rest else pure false

end ChartManifests.Program.Rich
