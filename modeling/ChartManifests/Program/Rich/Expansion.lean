import ChartManifests.Program.Home
import ChartManifests.Program.Rich.Declaring
import ChartManifests.Program.Rich.Means
import ChartManifests.Program.Rich.Options
/-!
What parameters come to in the rich shell: the value of a parameter or of an item, or all items of a
list, and what is made of each.
-/

namespace ChartManifests.Program.Rich

open Shell (Mark Reference Selection Treatment Word)
open Shell.Calculation (Place)

inductive Meant
  | one (place : Place)
  | all (name : String) (whole : Bool)

def Meant.name : Meant → String
  | one place => place.name
  | all name _ => name

def Meant.label : Meant → String
  | one place => place.text
  | all name whole => if name = "@" || name = "*" then name
    else name ++ (if whole then "[*]" else "[@]")

def isSpecialName (name : String) : Bool :=
  ["#", "?", "$", "-", "!", "0"].contains name || Signal.isNumber name

def specialValue (state : State) (name : String) : Option String :=
  if name = "-" then some (String.ofList (letterOrder.filter state.options.contains))
  else parameterValue state name

def meantBy (means : Means) (name : String) : Selection → Run Meant
  | .whole => pure (if name = "@" || name = "*" then .all name (name = "*") else .one ⟨name, none⟩)
  | .apart => pure (.all name false)
  | .together => pure (.all name true)
  | .one subscript => do pure (.one ⟨name, some (← means.text subscript)⟩)

def meantByText (text : String) : Meant :=
  if text = "@" || text = "*" then .all text (text = "*")
  else
    let place := Calculation.placeOf text none
    match place.subscript with
    | some "@" => .all place.name false
    | some "*" => .all place.name true
    | _ => .one place

def valueOf (place : Place) : Run (Option String) := do
  let state ← get
  if isSpecialName place.name then pure (specialValue state place.name)
  else
    let target := Calculation.target state place
    let content? := state.contentOf target.name
    if target.name = "RANDOM" then
      modify fun state => state.withExtras fun extras => extras.random.2
    match target.subscript with
    | none => pure (content?.bind Content.first?)
    | some subscript =>
      if subscript = "@" || subscript = "*" then
        pure ((content?.map fun content => content.entries.map Prod.snd).map (together state))
      else do
        match ← settled ((Calculation.key state target).map fun (key?, after) =>
          ((key?, after.contentOf target.name), after)) with
        | (some key, content?) => pure (content?.bind fun content => content.item? key)
        | (none, _) => do
          complain (target.name ++ ": bad array subscript")
          pure none

def itemsOf (state : State) (name : String) : List (String × String) :=
  if name = "@" || name = "*" then
    state.arguments.zipIdx.map fun (value, index) => (toString (index + 1), value)
  else state.entriesOf (state.referred 10 name)

def lack {α : Type} (text : String) : Run α := do
  complain text
  throw (.exited (← get).lackStatus)

def unboundLabel (meant : Meant) : String :=
  let label := meant.label
  (if isSpecialName label then "$" else "") ++ label ++ ": unbound variable"

def numberOf (means : Means) (word : Word) : Run (String × Int) := do
  let text ← means.text word
  let state ← get
  let value ← settled (calculate state text)
  pure (text, value)

def sliced (means : Means) (bounded : Bool) (word second : Word) (one : Option String)
    (items : Option (Nat × List (Nat × String))) : Run (List String) := do
  let (_, offset) ← numberOf means word
  let (text, length?) ← if bounded then do
      let (text, length) ← numberOf means second
      pure (text, some length)
    else pure ("", none)
  let result := match items with
    | some (behind, items) => sliceOfItems behind offset length? items
    | none => (sliceOfText offset length? (one.getD "").toList).map fun part =>
      [String.ofList part]
  match result with
  | some values => pure values
  | none => giveUp (text ++ ": substring expression < 0")

/-- The items of a parameter by their numbers, with the number behind the last; the title of the
shell stands in front of the arguments. -/
def numberedItems (state : State) (name : String) : Nat × List (Nat × String) :=
  let counted (values : List String) : List (Nat × String) :=
    values.zipIdx.map fun (value, index) => (index, value)
  if name = "@" || name = "*" then
    (state.arguments.length + 1, counted (state.title :: state.arguments))
  else
    match state.contentOf (state.referred 10 name) with
    | some (.list items) => ((Content.list items).behind, items)
    | some content =>
      let values := content.entries.map Prod.snd
      (values.length, counted values)
    | none => (0, [])

def assignmentText (state : State) (name : String) (whole : Bool) : String :=
  match state.find (state.referred 10 name) with
  | none => ""
  | some parameter =>
    let marks := parameter.attributes
    match parameter.content, whole with
    | some (.text value), _ =>
      (if marks = "" then "" else "declare -" ++ marks ++ " ") ++ parameter.name ++ "="
        ++ Requoting.reusable value
    | some content, false =>
      "declare -" ++ marks ++ " " ++ parameter.name
        ++ (content.first?.elim "" fun value => "=" ++ Requoting.reusable value)
    | content?, _ => parameter.declaration content?

def describedParts (state : State) (meant : Meant) (aspect : Char) (value? : Option String)
    (values : List String) (quoted : Bool) : List Part :=
  match meant, aspect with
  | .one place, 'a' =>
    let marks := (state.find (state.referred 10 place.name)).map Parameter.attributes
    valueParts (marks.getD "") quoted
  | .one place, 'A' => valueParts (assignmentText state place.name false) quoted
  | .one _, _ => valueParts ((value?.map (transformed aspect)).getD "") quoted
  | .all name whole, 'a' =>
    let marks := ((state.find (state.referred 10 name)).map Parameter.attributes).getD ""
    listParts state (values.map fun _ => marks) whole quoted
  | .all name _, 'A' =>
    if name = "@" || name = "*" then
      valueParts ("set -- " ++ " ".intercalate (values.map Requoting.reusable)) quoted
    else valueParts (assignmentText state name true) quoted
  | .all name _, 'K' =>
    valueParts (" ".intercalate ((itemsOf state name).map fun (key, value) =>
      key ++ " " ++ Requoting.declared value)) quoted
  | .all name whole, 'k' =>
    listParts state ((itemsOf state name).flatMap fun (key, value) => [key, value]) whole quoted
  | .all _ whole, _ => listParts state (values.map (transformed aspect)) whole quoted

def assignMissing (meant : Meant) (text : String) : Run Unit := do
  match meant with
  | .one place =>
    if isSpecialName place.name then giveUp ("$" ++ place.name ++ ": cannot assign in this way")
    else if !isParameterName place.name then giveUp (place.text ++ ": invalid variable name")
    else settled ((assignPlace (← get) place false text).map fun after => ((), after))
  | .all _ _ => giveUp ("$" ++ meant.label ++ ": cannot assign in this way")

def meantParts (means : Means) (meant : Meant) (treatment : Treatment) (word second : Word)
    (quoted : Bool) : Run (List Part) := do
  let value? ← match meant with
    | .one place => valueOf place
    | .all _ _ => pure none
  let state ← get
  let values := match meant with
    | .one _ => value?.toList
    | .all name _ => (itemsOf state name).map Prod.snd
  let isWhole := match meant with
    | .one _ => true
    | .all _ whole => whole
  let isOne := match meant with
    | .one _ => true
    | .all _ _ => false
  let shown (values : List String) : List Part :=
    if isOne then valueParts (values.headD "") quoted else listParts state values isWhole quoted
  let mapped (change : List Char → List Char) : List Part :=
    shown (values.map fun value => String.ofList (change value.toList))
  let lacks (empty : Bool) : Bool :=
    values.isEmpty || (empty && " ".intercalate values = "")
  let instead : Run (List Part) := do
    let parts ← means.expand (!quoted) (if quoted then word else homeWord state false word)
    pure (if quoted then .mark :: parts else parts)
  let required : Run Unit :=
    if isOne && value?.isNone && state.options.contains 'u' then lack (unboundLabel meant)
    else pure ()
  match treatment with
  | .fallback empty => if lacks empty then instead else pure (shown values)
  | .alternative empty => if lacks empty then pure (if quoted then [.mark] else []) else instead
  | .assignment empty =>
    if lacks empty then do
      let text ← means.text (if quoted then word else homeWord state false word)
      assignMissing meant text
      match meant with
      | .one place => do pure (valueParts ((← valueOf place).getD "") quoted)
      | .all _ _ => pure []
    else pure (shown values)
  | .demand empty =>
    if lacks empty then do
      let text ← means.text (if quoted then word else homeWord state false word)
      lack (meant.label ++ ": " ++ (if text ≠ "" then text
        else if empty then "parameter null or not set" else "parameter not set"))
    else pure (shown values)
  | .names =>
    let names := ((allParameters state).filter fun parameter =>
      meant.name.toList.isPrefixOf parameter.name.toList
        && (state.contentOf parameter.name).isSome).map Parameter.name
    pure (listParts state names isWhole quoted)
  | .keys =>
    match meant with
    | .all name whole => pure (listParts state ((itemsOf state name).map Prod.fst) whole quoted)
    | .one _ => pure (shown values)
  | .improper => giveUp (meant.label ++ ": bad substitution")
  | .plain => do
    required
    pure (shown values)
  | .length => do
    required
    match meant with
    | .one _ => pure (valueParts (toString (value?.getD "").length) quoted)
    | .all _ _ => pure (valueParts (toString values.length) quoted)
  | .trimStart longest => do
    required
    let pattern ← means.pattern word
    pure (mapped (Shell.trimStart longest pattern))
  | .trimEnd longest => do
    required
    let pattern ← means.pattern word
    pure (mapped (Shell.trimEnd longest pattern))
  | .slice bounded => do
    required
    match meant with
    | .one _ =>
      if value?.isNone then pure (shown [])
      else do pure (shown (← sliced means bounded word second value? none))
    | .all name _ =>
      pure (shown (← sliced means bounded word second none (some (numberedItems state name))))
  | .replacement scope => do
    required
    let pattern ← means.pattern word
    let marks ← means.marks second
    pure (mapped (replaced (state.isOn "patsub_replacement") scope pattern marks))
  | .recased letters every => do
    required
    let pattern ← means.pattern word
    pure (mapped (recased letters every pattern))
  | .described aspect => do
    if aspect ≠ 'a' && aspect ≠ 'A' then required
    pure (describedParts state meant aspect value? values quoted)

def meantInTheEnd (means : Means) (name : String) (indirect : Bool) (selection : Selection) :
    Run (Except String Meant) := do
  let meant ← meantBy means name selection
  if !indirect then pure (.ok meant)
  else
    let state ← get
    match meant with
    | .all _ _ => do
      match (itemsOf state name).map Prod.snd with
      | [] => giveUp (name ++ ": invalid indirect expansion")
      | values => pure (.ok (meantByText (" ".intercalate values)))
    | .one place =>
      let refers := (state.find place.name).any fun parameter => parameter.refers
      if refers && place.subscript.isNone then
        match (state.find place.name).bind Parameter.value with
        | some target => pure (.error target)
        | none => giveUp (name ++ ": invalid indirect expansion")
      else
        match ← valueOf place with
        | none => giveUp (place.text ++ ": invalid indirect expansion")
        | some text =>
          let found := meantByText text
          let isProper := match found with
            | .one target => isSpecialName target.name || isParameterName target.name
            | .all name _ => name = "@" || name = "*" || isParameterName name
          if isProper then pure (.ok found) else giveUp (text ++ ": invalid variable name")

def parameterParts (means : Means) (reference : Reference) (treatment : Treatment)
    (word second : Word) (quoted : Bool) : Run (List Part) :=
  match reference with
  | .mk name indirect selection =>
    if treatment matches .improper then giveUp (name ++ ": bad substitution")
    else do
      match ← meantInTheEnd means name indirect selection with
      | .ok meant => meantParts means meant treatment word second quoted
      | .error text => pure (valueParts text quoted)

end ChartManifests.Program.Rich
